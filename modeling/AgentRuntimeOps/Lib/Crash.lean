import AgentRuntimeOps.Lib.Program
import Mathlib.Logic.Relation

/-!
# Programs that are interrupted

A world answers the operations of a `Program` by a relation: `resp w op r w'` says that in the
world `w` the operation `op` may be answered by `r` and leave the world `w'`.  An operation that
can fail, or whose answer is not ours to know, has several outcomes.

* `RunsTo resp p w q w'`: some run of `p` from `w` comes to `q` in `w'`.
* `Ends resp p w x w'`: some run of `p` from `w` ends with `x` (a value or an exception) in `w'`.
* `Interrupted resp p w op w'`: some run of `p` from `w` is cut off in `w'`, when `op` is next.
* `Stops resp allowed p w w'`: a run of `p` ends in `w'`, or is cut off there before an operation
  that `allowed` admits as the place of a crash.

`Answers.flagged` adds to a world a flag that certain answers raise, so that a result can speak of
what an operation answered.

`onKey` runs a program on one of many worlds, and `safe_onKey` carries what was proved of it over.

`safe_and` joins what is proved about a program separately, and `safe_invariant` proves a property
that every operation of a program keeps.

`Program.Safe` is the proof rule: with the worlds as ghost knowledge, `Rules.pre` is what must hold
whenever the run is cut off, and the two postconditions are what holds when it ends.  A sequence
of interrupted runs is `Relation.ReflTransGen` of `Stops`.
-/

namespace AgentRuntimeOps.Lib

namespace Program

variable {Op : Type} {Res : Op → Type} {ε α β W : Type}

/-- The ways a world may answer the operations. -/
abbrev Answers (Op : Type) (Res : Op → Type) (ε W : Type) : Type :=
  W → (op : Op) → Except ε (Res op) → W → Prop

section runs

variable (resp : Answers Op Res ε W)

/-- Some run of `p` from `w` comes to `q` in `w'`. -/
inductive RunsTo : Program Op Res ε α → W → Program Op Res ε α → W → Prop where
  | refl (p : Program Op Res ε α) (w : W) : RunsTo p w p w
  | next {op : Op} {k : Except ε (Res op) → Program Op Res ε α} {q : Program Op Res ε α}
      {w w₁ w' : W} {r : Except ε (Res op)} :
      resp w op r w₁ → RunsTo (k r) w₁ q w' → RunsTo (call op k) w q w'

/-- Some run of `p` from `w` ends with `x` in `w'`. -/
def Ends (p : Program Op Res ε α) (w : W) (x : Except ε α) (w' : W) : Prop :=
  RunsTo resp p w (ofExcept x) w'

/-- Some run of `p` from `w` is cut off in `w'`, when `op` is next. -/
def Interrupted (p : Program Op Res ε α) (w : W) (op : Op) (w' : W) : Prop :=
  ∃ k, RunsTo resp p w (call op k) w'

/-- A run of `p` from `w` ends in `w'`, or is cut off there before an operation that `allowed`
admits. -/
def Stops (allowed : W → Op → Prop) (p : Program Op Res ε α) (w w' : W) : Prop :=
  (∃ x, Ends resp p w x w') ∨ ∃ op, allowed w' op ∧ Interrupted resp p w op w'

end runs

variable {resp resp' : Answers Op Res ε W} {p q : Program Op Res ε α} {w w' w'' : W}

/-- What is left to run keeps the rules. -/
lemma RunsTo.safe {pre : W → Op → Prop} {Q : W → α → Prop} {E : W → ε → Prop}
    (h : RunsTo resp p w q w') (hp : Safe ⟨pre, resp⟩ Q E w p) : Safe ⟨pre, resp⟩ Q E w' q := by
  induction h with
  | refl => exact hp
  | next hop _ ih => exact ih (hp.2 _ _ hop)

section soundness

variable {pre : W → Op → Prop} {Q : W → α → Prop} {E : W → ε → Prop}

theorem Ends.of_safe {a : α} (h : Ends resp p w (.ok a) w') (hp : Safe ⟨pre, resp⟩ Q E w p) :
    Q w' a := RunsTo.safe h hp

theorem Ends.of_safe_error {e : ε} (h : Ends resp p w (.error e) w')
    (hp : Safe ⟨pre, resp⟩ Q E w p) : E w' e := RunsTo.safe h hp

theorem Interrupted.of_safe {op : Op} (h : Interrupted resp p w op w')
    (hp : Safe ⟨pre, resp⟩ Q E w p) : pre w' op := by
  obtain ⟨k, h⟩ := h
  exact (RunsTo.safe h hp).1

/-- What holds at every allowed interruption and at both ends holds where a run stops. -/
theorem Stops.of_safe {allowed : W → Op → Prop} {P : W → Prop} (h : Stops resp allowed p w w')
    (hp : Safe ⟨fun w op => allowed w op → P w, resp⟩ (fun w _ => P w) (fun w _ => P w) w p) :
    P w' := by
  rcases h with ⟨x, h⟩ | ⟨op, hop, h⟩
  · cases x with
    | ok a => exact h.of_safe hp
    | error e => exact h.of_safe_error hp
  · exact h.of_safe hp hop

end soundness

/-! ## Rules for separate facts -/

section facts

variable {pre pre' : W → Op → Prop} {Q Q' : W → α → Prop} {E E' : W → ε → Prop}

/-- Two facts about one program. -/
lemma safe_and (h : Safe ⟨pre, resp⟩ Q E w p) (h' : Safe ⟨pre', resp⟩ Q' E' w p) :
    Safe ⟨fun w op => pre w op ∧ pre' w op, resp⟩ (fun w a => Q w a ∧ Q' w a)
      (fun w e => E w e ∧ E' w e) w p := by
  induction p generalizing w with
  | ret a => exact ⟨h, h'⟩
  | fail e => exact ⟨h, h'⟩
  | call op k ih => exact ⟨⟨h.1, h'.1⟩, fun r g hr => ih r (h.2 r g hr) (h'.2 r g hr)⟩

/-- A sequence, with what is known between its parts. -/
lemma Safe.bind {f : α → Program Op Res ε β} {Q' : W → β → Prop} (hp : Safe ⟨pre, resp⟩ Q E w p)
    (hf : ∀ w' a, Q w' a → Safe ⟨pre, resp⟩ Q' E w' (f a)) : Safe ⟨pre, resp⟩ Q' E w (p >>= f) :=
  safe_bind.mpr (hp.mono hf fun _ _ h => h)

/-- A loop keeps what each of its rounds keeps. -/
lemma safe_forEach {f : α → Program Op Res ε β} {inv : W → Prop} {as : List α}
    (hf : ∀ a ∈ as, ∀ w, inv w → Safe ⟨pre, resp⟩ (fun w _ => inv w) E w (f a)) (hw : inv w) :
    Safe ⟨pre, resp⟩ (fun w _ => inv w) E w (forEach f as) := by
  induction as generalizing w with
  | nil => exact hw
  | cons a as ih =>
      refine (hf a List.mem_cons_self w hw).bind fun w₁ b h₁ => ?_
      refine (ih (fun a ha => hf a (List.mem_cons_of_mem _ ha)) h₁).bind fun w₂ bs h₂ => ?_
      exact h₂

/-- A weaker demand at interruptions. -/
lemma safe_mono_pre (h : Safe ⟨pre, resp⟩ Q E w p) (hpre : ∀ w op, pre w op → pre' w op) :
    Safe ⟨pre', resp⟩ Q E w p := by
  induction p generalizing w with
  | ret a => exact h
  | fail e => exact h
  | call op k ih => exact ⟨hpre _ _ h.1, fun r g hr => ih r (h.2 r g hr)⟩

/-- One demand on where a program stops short of its end. -/
lemma safe_within {I : W → Prop} (h : Safe ⟨pre, resp⟩ Q E w p) (hpre : ∀ w op, pre w op → I w)
    (hE : ∀ w e, E w e → I w) : Safe ⟨fun w _ => I w, resp⟩ Q (fun w _ => I w) w p :=
  (safe_mono_pre h hpre).mono (fun _ _ h => h) hE

/-- Nothing is demanded of any program. -/
lemma safe_true (w : W) (p : Program Op Res ε α) :
    Safe ⟨fun _ _ => True, resp⟩ (fun _ _ => True) (fun _ _ => True) w p := by
  induction p generalizing w with
  | ret a => exact trivial
  | fail e => exact trivial
  | call op k ih => exact ⟨trivial, fun r g _ => ih r g⟩

/-- What every operation of a program keeps holds throughout. -/
lemma safe_invariant {P : Op → Prop} {I : W → Prop} (hp : AllOps P p)
    (hstep : ∀ w op r w', P op → I w → resp w op r w' → I w') (hw : I w) :
    Safe ⟨fun w op => I w ∧ P op, resp⟩ (fun w _ => I w) (fun w _ => I w) w p := by
  induction p generalizing w with
  | ret a => exact hw
  | fail e => exact hw
  | call op k ih =>
      exact ⟨⟨hw, hp.1⟩, fun r g hr => ih r (hp.2 r) (hstep w op r g hp.1 hw hr)⟩

end facts

/-! ## Runs that exist -/

/-- If the rules let a program stop only where the world can answer, the program can end. -/
theorem exists_ends_of_safe {pre : W → Op → Prop} {Q : W → α → Prop} {E : W → ε → Prop}
    (hp : Safe ⟨pre, resp⟩ Q E w p) (hpre : ∀ w op, pre w op → ∃ r w', resp w op r w') :
    ∃ x w', Ends resp p w x w' := by
  induction p generalizing w with
  | ret a => exact ⟨.ok a, w, .refl _ _⟩
  | fail e => exact ⟨.error e, w, .refl _ _⟩
  | call op k ih =>
      obtain ⟨r, w₁, hop⟩ := hpre w op hp.1
      obtain ⟨x, w', h⟩ := ih r (hp.2 r w₁ hop)
      exact ⟨x, w', .next hop h⟩

section executed

variable {exec : (op : Op) → W → Except ε (Res op) × W}

/-- A run that is executed, from a world where the executed answers are possible ones, is a run. -/
theorem ends_eval_of {I : W → Prop}
    (hexec : ∀ op w, I w → resp w op (exec op w).1 (exec op w).2 ∧ I (exec op w).2)
    (p : Program Op Res ε α) (w : W) (hw : I w) :
    Ends resp p w (eval exec p w).1 (eval exec p w).2 ∧ I (eval exec p w).2 := by
  induction p generalizing w with
  | ret a => exact ⟨.refl _ _, hw⟩
  | fail e => exact ⟨.refl _ _, hw⟩
  | call op k ih =>
      obtain ⟨hop, hinv⟩ := hexec op w hw
      obtain ⟨hends, hlast⟩ := ih _ _ hinv
      exact ⟨.next hop hends, hlast⟩

/-- A run that is executed is a run. -/
theorem ends_eval (hexec : ∀ op w, resp w op (exec op w).1 (exec op w).2)
    (p : Program Op Res ε α) (w : W) :
    Ends resp p w (eval exec p w).1 (eval exec p w).2 :=
  (ends_eval_of (I := fun _ => True) (fun op w _ => ⟨hexec op w, trivial⟩) p w trivial).1

/-- The operation that is next after `n` executed operations, and the world it finds. -/
def nextAfter (exec : (op : Op) → W → Except ε (Res op) × W) :
    Nat → Program Op Res ε α → W → Option (Op × W)
  | _, ret _, _ => none
  | _, fail _, _ => none
  | 0, call op _, w => some (op, w)
  | n + 1, call op k, w => nextAfter exec n (k (exec op w).1) (exec op w).2

theorem interrupted_of_nextAfter_of {I : W → Prop}
    (hexec : ∀ op w, I w → resp w op (exec op w).1 (exec op w).2 ∧ I (exec op w).2)
    (hw : I w) {n : Nat} {op : Op} (h : nextAfter exec n p w = some (op, w')) :
    Interrupted resp p w op w' := by
  induction n generalizing p w with
  | zero =>
      cases p with
      | ret => cases h
      | fail => cases h
      | call op' k =>
          cases h
          exact ⟨k, .refl _ _⟩
  | succ n ih =>
      cases p with
      | ret => cases h
      | fail => cases h
      | call op' k =>
          obtain ⟨hop, hinv⟩ := hexec op' w hw
          obtain ⟨k', hk⟩ := ih hinv h
          exact ⟨k', .next hop hk⟩

theorem interrupted_of_nextAfter (hexec : ∀ op w, resp w op (exec op w).1 (exec op w).2)
    {n : Nat} {op : Op} (h : nextAfter exec n p w = some (op, w')) :
    Interrupted resp p w op w' :=
  interrupted_of_nextAfter_of (I := fun _ => True) (fun op w _ => ⟨hexec op w, trivial⟩) trivial h

end executed

/-! ## Answers that leave a trace -/

section flagged

variable {mark : (op : Op) → Except ε (Res op) → Bool}

/-- The world with a flag that the answers `mark` picks out raise. -/
def Answers.flagged (resp : Answers Op Res ε W) (mark : (op : Op) → Except ε (Res op) → Bool) :
    Answers Op Res ε (W × Bool) :=
  fun w op r w' => resp w.1 op r w'.1 ∧ w'.2 = (w.2 || mark op r)

/-- What holds without the flag holds with it, and a flag that is raised stays raised. -/
lemma safe_flagged {pre : W → Op → Prop} {Q : W → α → Prop} {E : W → ε → Prop} {raised : Bool}
    (h : Safe ⟨pre, resp⟩ Q E w p) :
    Safe ⟨fun w op => pre w.1 op, resp.flagged mark⟩
      (fun w a => Q w.1 a ∧ (raised = true → w.2 = true))
      (fun w e => E w.1 e ∧ (raised = true → w.2 = true)) (w, raised) p := by
  induction p generalizing w raised with
  | ret a => exact ⟨h, id⟩
  | fail e => exact ⟨h, id⟩
  | call op k ih =>
      refine ⟨h.1, ?_⟩
      rintro r ⟨w', raised'⟩ ⟨hr, hflag⟩
      have hstays : raised = true → raised' = true := by
        rintro rfl
        simpa using hflag
      exact (ih r (h.2 r w' hr)).mono (fun _ _ hq => ⟨hq.1, fun hraised => hq.2 (hstays hraised)⟩)
        fun _ _ he => ⟨he.1, fun hraised => he.2 (hstays hraised)⟩

end flagged

/-! ## Many worlds -/

section keyed

variable {K : Type} [DecidableEq K]

/-- Run a program on the world of one key. -/
def onKey (key : K) : Program Op Res ε α → Program (K × Op) (fun op => Res op.2) ε α
  | ret a => ret a
  | fail e => fail e
  | call op k => call (key, op) fun r => onKey key (k r)

/-- An operation on the world of a key leaves the other worlds alone. -/
def Answers.keyed (resp : Answers Op Res ε W) : Answers (K × Op) (fun op => Res op.2) ε (K → W) :=
  fun w op r w' => ∃ v, resp (w op.1) op.2 r v ∧ w' = Function.update w op.1 v

/-- What a program does to its own world it does among many, and nothing else. -/
lemma safe_onKey {pre : W → Op → Prop} {Q : W → α → Prop} {E : W → ε → Prop} (worlds : K → W)
    (key : K) {v : W} (h : Safe ⟨pre, resp⟩ Q E v p) :
    Safe ⟨fun w op => op.1 = key ∧ ∃ v, pre v op.2 ∧ w = Function.update worlds key v, resp.keyed⟩
      (fun w a => ∃ v, Q v a ∧ w = Function.update worlds key v)
      (fun w e => ∃ v, E v e ∧ w = Function.update worlds key v)
      (Function.update worlds key v) (onKey key p) := by
  induction p generalizing v with
  | ret a => exact ⟨v, h, rfl⟩
  | fail e => exact ⟨v, h, rfl⟩
  | call op k ih =>
      refine ⟨⟨rfl, v, h.1, rfl⟩, ?_⟩
      rintro r _ ⟨v', hr, rfl⟩
      rw [Function.update_idem]
      exact ih r (h.2 r v' (by simpa using hr))

end keyed

end Program

end AgentRuntimeOps.Lib
