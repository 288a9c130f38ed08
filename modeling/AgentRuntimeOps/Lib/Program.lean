import Mathlib.Tactic

/-!
# Interactive programs and their interleavings

`Program Op Res ε α` is a program that performs operations `op : Op` one at a time, each answered
by a result in `Res op` or an exception, and ends by returning an `α` or by raising an `ε`.  A
program is a finite tree, so it always ends; what may happen *between* two of its operations is
left to whoever runs it.

* `Program.step?` performs one operation against a shared world: the unit of interleaving.
* `Program.eval` runs a program alone to its end, and `Returns` says that it returns, with a
  postcondition; with `among` the world changes between two operations as others please.
* `Safe` is a proof rule for programs that run among others.  A program carries ghost knowledge
  `g : γ`; `Rules.pre` says which operations it may perform with it and `Rules.resp` which
  answers it has to expect and what it knows afterwards.  `safe_bind` and `safe_tryCatch`
  compute the obligation of a composed program from those of its parts, and
  `safe_of_allOps` discharges the parts whose operations do not touch the ghost knowledge.
-/

namespace AgentRuntimeOps.Lib

/-- A program over operations `Op` with results `Res`, exceptions `ε` and value type `α`. -/
inductive Program (Op : Type) (Res : Op → Type) (ε α : Type) : Type where
  /-- Return a value. -/
  | ret (a : α)
  /-- Raise an exception. -/
  | fail (e : ε)
  /-- Perform `op` and go on with its answer. -/
  | call (op : Op) (k : Except ε (Res op) → Program Op Res ε α)

namespace Program

variable {Op : Type} {Res : Op → Type} {ε α β : Type}

/-- Sequencing; an exception of the first program is passed on. -/
protected def bind : Program Op Res ε α → (α → Program Op Res ε β) → Program Op Res ε β
  | ret a, f => f a
  | fail e, _ => fail e
  | call op k, f => call op fun r => (k r).bind f

/-- `try p except e: h e`. -/
protected def tryCatch : Program Op Res ε α → (ε → Program Op Res ε α) → Program Op Res ε α
  | ret a, _ => ret a
  | fail e, h => h e
  | call op k, h => call op fun r => (k r).tryCatch h

instance : Monad (Program Op Res ε) where
  pure := ret
  bind := Program.bind

instance : MonadExceptOf ε (Program Op Res ε) where
  throw := fail
  tryCatch := Program.tryCatch

/-- The program that performs one operation and returns or raises its answer. -/
def perform (op : Op) : Program Op Res ε (Res op) :=
  call op fun
    | .ok a => ret a
    | .error e => fail e

/-- A pure computation that may raise. -/
def ofExcept : Except ε α → Program Op Res ε α
  | .ok a => ret a
  | .error e => fail e

/-- Run `f` on every element of a list, in order, and collect the values. -/
def forEach (f : α → Program Op Res ε β) : List α → Program Op Res ε (List β)
  | [] => ret []
  | a :: as => (f a).bind fun b => (forEach f as).bind fun bs => ret (b :: bs)

/-! ## Running programs -/

section running

variable {W : Type} (exec : (op : Op) → W → Except ε (Res op) × W)

/-- One operation of the program, performed in the world `w`; `none` when it has ended. -/
def step? : Program Op Res ε α → W → Option (Program Op Res ε α × W)
  | ret _, _ => none
  | fail _, _ => none
  | call op k, w => some (k (exec op w).1, (exec op w).2)

/-- The program run alone, to its end. -/
def eval : Program Op Res ε α → W → Except ε α × W
  | ret a, w => (.ok a, w)
  | fail e, w => (.error e, w)
  | call op k, w => (k (exec op w).1).eval (exec op w).2

@[simp] lemma eval_ret (a : α) (w : W) :
    eval exec (ret a : Program Op Res ε α) w = (.ok a, w) := rfl

@[simp] lemma eval_fail (e : ε) (w : W) :
    eval exec (fail e : Program Op Res ε α) w = (.error e, w) := rfl

@[simp] lemma eval_pure (a : α) (w : W) :
    eval exec (pure a : Program Op Res ε α) w = (.ok a, w) := rfl

@[simp] lemma eval_throw (e : ε) (w : W) :
    eval exec (throw e : Program Op Res ε α) w = (.error e, w) := rfl

@[simp] lemma eval_perform (op : Op) (w : W) :
    eval exec (perform op : Program Op Res ε (Res op)) w = exec op w := by
  change eval exec (match (exec op w).1 with | .ok a => ret a | .error e => fail e) (exec op w).2 = _
  rcases h : exec op w with ⟨_ | a, w'⟩
  · rfl
  · rfl

@[simp] lemma eval_ofExcept (x : Except ε α) (w : W) :
    eval exec (ofExcept x : Program Op Res ε α) w = (x, w) := by
  cases x
  · rfl
  · rfl

lemma eval_bind (p : Program Op Res ε α) (f : α → Program Op Res ε β) (w : W) :
    eval exec (p >>= f) w =
      match eval exec p w with
      | (.ok a, w') => eval exec (f a) w'
      | (.error e, w') => (.error e, w') := by
  change eval exec (p.bind f) w = _
  induction p generalizing w with
  | ret a => rfl
  | fail e => rfl
  | call op k ih => exact ih _ _

lemma eval_bind_of_ok {p : Program Op Res ε α} {f : α → Program Op Res ε β} {w w' : W} {a : α}
    (h : eval exec p w = (.ok a, w')) : eval exec (p >>= f) w = eval exec (f a) w' := by
  rw [eval_bind, h]

lemma eval_bind_of_error {p : Program Op Res ε α} {f : α → Program Op Res ε β} {w w' : W} {e : ε}
    (h : eval exec p w = (.error e, w')) : eval exec (p >>= f) w = (.error e, w') := by
  rw [eval_bind, h]

lemma eval_tryCatch (p : Program Op Res ε α) (h : ε → Program Op Res ε α) (w : W) :
    eval exec (tryCatch p h) w =
      match eval exec p w with
      | (.ok a, w') => (.ok a, w')
      | (.error e, w') => eval exec (h e) w' := by
  change eval exec (p.tryCatch h) w = _
  induction p generalizing w with
  | ret a => rfl
  | fail e => rfl
  | call op k ih => exact ih _ _

/-- The program, run alone, returns with `Q`. -/
def Returns (p : Program Op Res ε α) (w : W) (Q : α → W → Prop) : Prop :=
  ∃ a w', eval exec p w = (.ok a, w') ∧ Q a w'

variable {exec} {p : Program Op Res ε α} {w : W} {Q : α → W → Prop}

lemma returns_pure {a : α} (h : Q a w) : Returns exec (pure a) w Q := ⟨a, w, rfl, h⟩

lemma returns_bind {f : α → Program Op Res ε β} {Q : β → W → Prop} :
    Returns exec (p >>= f) w Q ↔ Returns exec p w fun a w' => Returns exec (f a) w' Q := by
  unfold Returns
  rw [eval_bind]
  rcases eval exec p w with ⟨e | a, w'⟩
  · simp
  · simp

lemma returns_perform (op : Op) {Q : Res op → W → Prop} {a : Res op}
    (hop : (exec op w).1 = .ok a) (h : Q a (exec op w).2) : Returns exec (perform op) w Q := by
  refine ⟨a, (exec op w).2, ?_, h⟩
  rw [eval_perform, ← hop]

lemma returns_ofExcept {x : Except ε α} :
    Returns exec (ofExcept x) w Q ↔ ∃ a, x = .ok a ∧ Q a w := by
  unfold Returns
  rw [eval_ofExcept]
  cases x
  · simp
  · simp

lemma Returns.mono {Q' : α → W → Prop} (h : Returns exec p w Q) (hQ : ∀ a w', Q a w' → Q' a w') :
    Returns exec p w Q' := by
  obtain ⟨a, w', heval, ha⟩ := h
  exact ⟨a, w', heval, hQ a w' ha⟩

lemma returns_of_eval {a : α} {w' : W} (h : eval exec p w = (.ok a, w')) :
    Returns exec p w Q ↔ Q a w' := by
  unfold Returns
  rw [h]
  simp

/-- A program returns once. -/
lemma Returns.and {Q' : α → W → Prop} (h : Returns exec p w Q) (h' : Returns exec p w Q') :
    Returns exec p w fun a w' => Q a w' ∧ Q' a w' := by
  obtain ⟨a, w₁, heval, ha⟩ := h
  obtain ⟨a', w₂, heval', ha'⟩ := h'
  rw [heval] at heval'
  cases heval'
  exact ⟨a, w₁, heval, ha, ha'⟩

/-- What returns is not caught. -/
lemma returns_tryCatch {h : ε → Program Op Res ε α} (hp : Returns exec p w Q) :
    Returns exec (tryCatch p h) w Q := by
  obtain ⟨a, w', heval, ha⟩ := hp
  refine ⟨a, w', ?_, ha⟩
  rw [eval_tryCatch, heval]

lemma returns_tryCatch_of_error {h : ε → Program Op Res ε α} {e : ε} {w' : W}
    (hp : eval exec p w = (.error e, w')) (hh : Returns exec (h e) w' Q) :
    Returns exec (tryCatch p h) w Q := by
  obtain ⟨a, w'', heval, ha⟩ := hh
  refine ⟨a, w'', ?_, ha⟩
  rw [eval_tryCatch, hp]
  exact heval

/-- A handler that returns whatever it catches makes any program return. -/
lemma returns_tryCatch_pure (p : Program Op Res ε α) (w : W) (b : ε → α)
    (h : ∀ a, Q a (eval exec p w).2) : Returns exec (tryCatch p fun e => pure (b e)) w Q := by
  rcases heval : eval exec p w with ⟨e | a, w'⟩
  · have hw := h (b e)
    rw [heval] at hw
    exact returns_tryCatch_of_error heval (returns_pure hw)
  · have hw := h a
    rw [heval] at hw
    exact returns_tryCatch ⟨a, w', heval, hw⟩

/-- Before the `n`-th operation, others change the world by `others n`. -/
def among (exec : (op : Op) → W → Except ε (Res op) × W) (others : Nat → W → W) (op : Op)
    (v : Nat × W) : Except ε (Res op) × (Nat × W) :=
  ((exec op (others v.1 v.2)).1, v.1 + 1, (exec op (others v.1 v.2)).2)

/-! ## Running in two worlds -/

/-- Run from related worlds, the program gives one answer, and leaves related worlds. -/
def Agrees (exec : (op : Op) → W → Except ε (Res op) × W) (R : W → W → Prop)
    (p : Program Op Res ε α) : Prop :=
  ∀ w w', R w w' → (eval exec p w).1 = (eval exec p w').1 ∧ R (eval exec p w).2 (eval exec p w').2

section agrees

variable {exec : (op : Op) → W → Except ε (Res op) × W} {R : W → W → Prop}

lemma agrees_pure (a : α) : Agrees exec R (pure a : Program Op Res ε α) := fun _ _ h => ⟨rfl, h⟩

lemma agrees_throw (e : ε) : Agrees exec R (throw e : Program Op Res ε α) := fun _ _ h => ⟨rfl, h⟩

lemma agrees_ofExcept (x : Except ε α) : Agrees exec R (ofExcept x : Program Op Res ε α) := by
  intro w w' h
  rw [eval_ofExcept, eval_ofExcept]
  exact ⟨rfl, h⟩

lemma agrees_perform {op : Op}
    (h : ∀ w w', R w w' → (exec op w).1 = (exec op w').1 ∧ R (exec op w).2 (exec op w').2) :
    Agrees exec R (perform op : Program Op Res ε (Res op)) := by
  intro w w' hw
  rw [eval_perform, eval_perform]
  exact h w w' hw

/-- Only the answers that are given have to be followed up. -/
lemma agrees_bind {p : Program Op Res ε α} {f : α → Program Op Res ε β} (hp : Agrees exec R p)
    (hf : ∀ a w w', R w w' → (eval exec p w).1 = .ok a → Agrees exec R (f a)) :
    Agrees exec R (p >>= f) := by
  intro w w' hw
  obtain ⟨hanswer, hworld⟩ := hp w w' hw
  have hnext := fun a => hf a w w' hw
  rw [eval_bind, eval_bind]
  rcases heval : eval exec p w with ⟨_ | a, v⟩
  · rcases heval' : eval exec p w' with ⟨_ | a', v'⟩
    · rw [heval, heval'] at hanswer hworld
      cases hanswer
      exact ⟨rfl, hworld⟩
    · rw [heval, heval'] at hanswer
      cases hanswer
  · rcases heval' : eval exec p w' with ⟨_ | a', v'⟩
    · rw [heval, heval'] at hanswer
      cases hanswer
    · rw [heval, heval'] at hanswer hworld
      cases hanswer
      exact hnext a (by rw [heval]) v v' hworld

lemma agrees_tryCatch {p : Program Op Res ε α} {f : ε → Program Op Res ε α}
    (hp : Agrees exec R p) (hf : ∀ e, Agrees exec R (f e)) : Agrees exec R (tryCatch p f) := by
  intro w w' hw
  obtain ⟨hanswer, hworld⟩ := hp w w' hw
  rw [eval_tryCatch, eval_tryCatch]
  rcases heval : eval exec p w with ⟨e | a, v⟩
  · rcases heval' : eval exec p w' with ⟨e' | a', v'⟩
    · rw [heval, heval'] at hanswer hworld
      cases hanswer
      exact hf e v v' hworld
    · rw [heval, heval'] at hanswer
      cases hanswer
  · rcases heval' : eval exec p w' with ⟨e' | a', v'⟩
    · rw [heval, heval'] at hanswer
      cases hanswer
    · rw [heval, heval'] at hanswer hworld
      cases hanswer
      exact ⟨rfl, hworld⟩

end agrees

/-! ## Running for a while -/

/-- The program, run alone for `n` operations, comes from `p` in `w` to `q` in `w'`. -/
inductive Runs (exec : (op : Op) → W → Except ε (Res op) × W) :
    Nat → Program Op Res ε α → W → Program Op Res ε α → W → Prop where
  | refl (p : Program Op Res ε α) (w : W) : Runs exec 0 p w p w
  | next {n : Nat} {p p₁ q : Program Op Res ε α} {w w₁ w' : W} (h : step? exec p w = some (p₁, w₁)) :
      Runs exec n p₁ w₁ q w' → Runs exec (n + 1) p w q w'

namespace Runs

variable {m n : Nat} {q t : Program Op Res ε α} {w' w'' : W}

lemma trans (h : Runs exec m p w q w') (h' : Runs exec n q w' t w'') :
    Runs exec (n + m) p w t w'' := by
  induction h with
  | refl => exact h'
  | next hstep _ ih => exact .next hstep (ih h')

lemma eval_eq (h : Runs exec n p w q w') : eval exec p w = eval exec q w' := by
  induction h with
  | refl => rfl
  | @next _ p _ _ _ _ _ hstep _ ih =>
      rw [← ih]
      cases p with
      | ret => cases hstep
      | fail => cases hstep
      | call op k => cases hstep; rfl

/-- The first part of a sequence runs as it does alone. -/
lemma bind (h : Runs exec n p w q w') (f : α → Program Op Res ε β) :
    Runs exec n (p >>= f) w (q >>= f) w' := by
  induction h with
  | refl => exact .refl _ _
  | @next _ p _ _ _ _ _ hstep _ ih =>
      cases p with
      | ret => cases hstep
      | fail => cases hstep
      | call op k => cases hstep; exact .next rfl ih

lemma tryCatch (h : Runs exec n p w q w') (f : ε → Program Op Res ε α) :
    Runs exec n (MonadExcept.tryCatch p f) w (MonadExcept.tryCatch q f) w' := by
  induction h with
  | refl => exact .refl _ _
  | @next _ p _ _ _ _ _ hstep _ ih =>
      cases p with
      | ret => cases hstep
      | fail => cases hstep
      | call op k => cases hstep; exact .next rfl ih

/-- One operation. -/
lemma perform (op : Op) {a : Except ε (Res op)} {v : W} (h : exec op w = (a, v)) :
    Runs exec 1 (Program.perform op) w (ofExcept a) v := by
  refine .next ?_ (.refl _ _)
  change some (match (exec op w).1 with | .ok a => ret a | .error e => fail e, (exec op w).2) = _
  rw [h]
  cases a <;> rfl

/-- One operation and what follows its answer. -/
lemma perform_bind (op : Op) {f : Res op → Program Op Res ε α} {a : Res op} {v : W}
    (h : exec op w = (.ok a, v)) (hrest : Runs exec n (f a) v q w') :
    Runs exec (n + 1) (Program.perform op >>= f) w q w' :=
  ((perform op h).bind f).trans hrest

lemma ofExcept_bind {x : Except ε β} {f : β → Program Op Res ε α} {b : β} (h : x = .ok b)
    (hrest : Runs exec n (f b) w q w') : Runs exec n (ofExcept x >>= f) w q w' := by
  rw [h]
  exact hrest

/-- Others who do nothing for a while do not matter. -/
lemma among {others : Nat → W → W} {k : Nat} (h : Runs exec n p w q w')
    (hquiet : ∀ i < k + n, ∀ w, others i w = w) :
    Runs (Program.among exec others) n p (k, w) q (k + n, w') := by
  induction h generalizing k with
  | refl => exact .refl _ _
  | @next n p _ _ w _ _ hstep _ ih =>
      cases p with
      | ret => cases hstep
      | fail => cases hstep
      | call op f =>
          cases hstep
          have hfirst := hquiet k (by omega) w
          have hrest := @ih (k + 1) fun i hi => hquiet i (by omega)
          rw [show k + (n + 1) = k + 1 + n by omega]
          refine .next ?_ hrest
          change some (f (exec op (others k w)).1, k + 1, (exec op (others k w)).2) = _
          rw [hfirst]

end Runs

end running

/-! ## Ghost rules -/

/-- What a program may do with its ghost knowledge, and what it learns from an answer. -/
structure Rules (Op : Type) (Res : Op → Type) (ε γ : Type) where
  /-- The operation may be performed with this knowledge. -/
  pre : γ → Op → Prop
  /-- The answer is possible with this knowledge and leads to that knowledge. -/
  resp : γ → (op : Op) → Except ε (Res op) → γ → Prop

variable {γ : Type}

/-- The program keeps the rules, whatever answers it gets; it returns with `Q` and raises
with `E`. -/
def Safe (R : Rules Op Res ε γ) (Q : γ → α → Prop) (E : γ → ε → Prop) :
    γ → Program Op Res ε α → Prop
  | g, ret a => Q g a
  | g, fail e => E g e
  | g, call op k => R.pre g op ∧ ∀ r g', R.resp g op r g' → Safe R Q E g' (k r)

section rules

variable {R : Rules Op Res ε γ} {Q Q' : γ → α → Prop} {E E' : γ → ε → Prop} {g : γ}

@[simp] lemma safe_ret {a : α} : Safe R Q E g (ret a) ↔ Q g a := Iff.rfl

@[simp] lemma safe_fail {e : ε} : Safe R Q E g (fail e) ↔ E g e := Iff.rfl

@[simp] lemma safe_pure {a : α} : Safe R Q E g (pure a) ↔ Q g a := Iff.rfl

@[simp] lemma safe_throw {e : ε} : Safe R Q E g (throw e) ↔ E g e := Iff.rfl

lemma safe_call {op : Op} {k : Except ε (Res op) → Program Op Res ε α} :
    Safe R Q E g (call op k) ↔ R.pre g op ∧ ∀ r g', R.resp g op r g' → Safe R Q E g' (k r) :=
  Iff.rfl

lemma safe_perform {op : Op} {Q : γ → Res op → Prop} :
    Safe R Q E g (perform op) ↔
      R.pre g op ∧ (∀ a g', R.resp g op (.ok a) g' → Q g' a) ∧
        ∀ e g', R.resp g op (.error e) g' → E g' e := by
  unfold perform
  rw [safe_call]
  refine and_congr_right fun _ => ⟨fun h => ⟨fun a g' => h (.ok a) g', fun e g' => h (.error e) g'⟩, ?_⟩
  rintro ⟨hok, herr⟩ (e | a) g' hr
  · exact herr e g' hr
  · exact hok a g' hr

@[simp] lemma safe_ofExcept {x : Except ε α} :
    Safe R Q E g (ofExcept x) ↔ (∀ a, x = .ok a → Q g a) ∧ ∀ e, x = .error e → E g e := by
  cases x
  · simp [ofExcept]
  · simp [ofExcept]

/-- The obligation of a sequence is that of its first part, with the obligation of the rest as
its postcondition. -/
lemma safe_bind {p : Program Op Res ε α} {f : α → Program Op Res ε β} {Q : γ → β → Prop} :
    Safe R Q E g (p >>= f) ↔ Safe R (fun g' a => Safe R Q E g' (f a)) E g p := by
  change Safe R Q E g (p.bind f) ↔ _
  induction p generalizing g with
  | ret a => exact Iff.rfl
  | fail e => exact Iff.rfl
  | call op k ih =>
      refine and_congr_right fun _ => forall_congr' fun r => forall_congr' fun g' => ?_
      exact imp_congr_right fun _ => ih r

/-- The obligation of a handler is the exceptional postcondition of what it guards. -/
lemma safe_tryCatch {p : Program Op Res ε α} {h : ε → Program Op Res ε α} :
    Safe R Q E g (tryCatch p h) ↔ Safe R Q (fun g' e => Safe R Q E g' (h e)) g p := by
  change Safe R Q E g (p.tryCatch h) ↔ _
  induction p generalizing g with
  | ret a => exact Iff.rfl
  | fail e => exact Iff.rfl
  | call op k ih =>
      refine and_congr_right fun _ => forall_congr' fun r => forall_congr' fun g' => ?_
      exact imp_congr_right fun _ => ih r

lemma Safe.mono {p : Program Op Res ε α} (h : Safe R Q E g p)
    (hQ : ∀ g a, Q g a → Q' g a) (hE : ∀ g e, E g e → E' g e) : Safe R Q' E' g p := by
  induction p generalizing g with
  | ret a => exact hQ g a h
  | fail e => exact hE g e h
  | call op k ih => exact ⟨h.1, fun r g' hr => ih r (h.2 r g' hr)⟩

end rules

/-! ## Programs whose operations are all of one kind -/

/-- Every operation the program can perform satisfies `P`. -/
def AllOps (P : Op → Prop) : Program Op Res ε α → Prop
  | ret _ => True
  | fail _ => True
  | call op k => P op ∧ ∀ r, AllOps P (k r)

variable {P : Op → Prop}

lemma AllOps.mono {P' : Op → Prop} {p : Program Op Res ε α} (h : AllOps P p)
    (hP : ∀ op, P op → P' op) : AllOps P' p := by
  induction p with
  | ret a => exact trivial
  | fail e => exact trivial
  | call op k ih => exact ⟨hP op h.1, fun r => ih r (h.2 r)⟩

@[simp] lemma allOps_ret (a : α) : AllOps P (ret a : Program Op Res ε α) := trivial

@[simp] lemma allOps_fail (e : ε) : AllOps P (fail e : Program Op Res ε α) := trivial

@[simp] lemma allOps_pure (a : α) : AllOps P (pure a : Program Op Res ε α) := trivial

@[simp] lemma allOps_throw (e : ε) : AllOps P (throw e : Program Op Res ε α) := trivial

@[simp] lemma allOps_perform {op : Op} :
    AllOps P (perform op : Program Op Res ε (Res op)) ↔ P op := by
  refine ⟨fun h => h.1, fun h => ⟨h, ?_⟩⟩
  rintro (e | a)
  · trivial
  · trivial

@[simp] lemma allOps_ofExcept (x : Except ε α) : AllOps P (ofExcept x : Program Op Res ε α) := by
  cases x
  · trivial
  · trivial

lemma allOps_bind {p : Program Op Res ε α} {f : α → Program Op Res ε β} (hp : AllOps P p)
    (hf : ∀ a, AllOps P (f a)) : AllOps P (p >>= f) := by
  change AllOps P (p.bind f)
  induction p with
  | ret a => exact hf a
  | fail e => trivial
  | call op k ih => exact ⟨hp.1, fun r => ih r (hp.2 r)⟩

lemma allOps_tryCatch {p : Program Op Res ε α} {h : ε → Program Op Res ε α} (hp : AllOps P p)
    (hh : ∀ e, AllOps P (h e)) : AllOps P (tryCatch p h) := by
  change AllOps P (p.tryCatch h)
  induction p with
  | ret a => trivial
  | fail e => exact hh e
  | call op k ih => exact ⟨hp.1, fun r => ih r (hp.2 r)⟩

lemma allOps_forEach {f : α → Program Op Res ε β} (hf : ∀ a, AllOps P (f a)) (as : List α) :
    AllOps P (forEach f as) := by
  induction as with
  | nil => trivial
  | cons a as ih => exact allOps_bind (hf a) fun b => allOps_bind ih fun bs => trivial

/-- A program all of whose operations leave the ghost knowledge alone keeps it. -/
lemma safe_of_allOps {R : Rules Op Res ε γ} {p : Program Op Res ε α} (hp : AllOps P p)
    (hpre : ∀ g op, P op → R.pre g op)
    (hresp : ∀ g op r g', P op → R.resp g op r g' → g' = g) (g : γ) :
    Safe R (fun g' _ => g' = g) (fun g' _ => g' = g) g p := by
  induction p with
  | ret a => exact rfl
  | fail e => exact rfl
  | call op k ih =>
      refine ⟨hpre g op hp.1, fun r g' hr => ?_⟩
      obtain rfl := hresp g op r g' hp.1 hr
      exact ih r (hp.2 r)

end Program

end AgentRuntimeOps.Lib
