import Mathlib.Tactic

/-!
# Computations with state, exceptions and rollback

`Tx σ ε α` is a computation over a mutable state `σ` that returns an `α` or raises an `ε`.  An
exception does **not** undo the writes made before it: `(x >>= f) s` hands the state that `x` left
behind to whoever handles the exception.  Undoing is the business of `transaction`, which restores
the state it started from when its body raises.

The `_ok` lemmas say when a computation succeeds.  They are equivalences, so one list of them
inverts a successful run into its guards and its effect, and proves success from the guards.
-/

namespace AgentRuntimeOps.Lib

/-- A computation over a state `σ` with exceptions `ε`; an exception keeps the state reached. -/
def Tx (σ ε α : Type) := σ → Except ε α × σ

namespace Tx

variable {σ ε α β : Type}

/-- Return a value, leaving the state alone. -/
protected def pure (a : α) : Tx σ ε α := fun s => (.ok a, s)

/-- Run `x`, then `f` on its result from the state `x` left; an exception of `x` is passed on. -/
protected def bind (x : Tx σ ε α) (f : α → Tx σ ε β) : Tx σ ε β := fun s =>
  match x s with
  | (.ok a, s') => f a s'
  | (.error e, s') => (.error e, s')

instance : Monad (Tx σ ε) where
  pure := Tx.pure
  bind := Tx.bind

/-- Raise an exception. -/
def raise (e : ε) : Tx σ ε α := fun s => (.error e, s)

/-- Raise `e` unless `c` holds. -/
def require (c : Prop) [Decidable c] (e : ε) : Tx σ ε Unit :=
  if c then Tx.pure () else raise e

/-- A value computed from the state. -/
def reads (f : σ → α) : Tx σ ε α := fun s => (.ok (f s), s)

/-- A check or computation that does not touch the state. -/
def ofExcept (x : Except ε α) : Tx σ ε α := fun s => (x, s)

/-- A fallible reading of the state. -/
def readsOrRaise (f : σ → Except ε α) : Tx σ ε α := fun s => (f s, s)

/-- Replace the state by `f` of it, or raise. -/
def writes (f : σ → Except ε σ) : Tx σ ε Unit := fun s =>
  match f s with
  | .ok s' => (.ok (), s')
  | .error e => (.error e, s)

/-- Run `body` as a transaction: if it raises, the state is rolled back. -/
def transaction (body : Tx σ ε α) : Tx σ ε α := fun s =>
  match body s with
  | (.ok a, s') => (.ok a, s')
  | (.error e, _) => (.error e, s)

/-- A sequence goes on from where its first part returned. -/
lemma bind_of_ok {x : Tx σ ε α} {f : α → Tx σ ε β} {s s' : σ} {a : α} (h : x s = (.ok a, s')) :
    (x >>= f) s = f a s' := by
  change Tx.bind x f s = _
  unfold Tx.bind
  rw [h]

lemma bind_of_error {x : Tx σ ε α} {f : α → Tx σ ε β} {s s' : σ} {e : ε}
    (h : x s = (.error e, s')) : (x >>= f) s = (.error e, s') := by
  change Tx.bind x f s = _
  unfold Tx.bind
  rw [h]

/-! ## When a computation succeeds -/

section ok

variable {s s' : σ} {a : α} {b : β} {e : ε}

lemma pure_ok {a' : α} : (pure a : Tx σ ε α) s = (.ok a', s') ↔ a = a' ∧ s = s' := by
  change ((Except.ok a : Except ε α), s) = (.ok a', s') ↔ _
  simp

lemma bind_ok {x : Tx σ ε α} {f : α → Tx σ ε β} :
    (x >>= f) s = (.ok b, s') ↔ ∃ a s₁, x s = (.ok a, s₁) ∧ f a s₁ = (.ok b, s') := by
  change Tx.bind x f s = _ ↔ _
  unfold Tx.bind
  rcases x s with ⟨_ | a, s₁⟩
  · simp
  · simp

/-- An exception of a sequence is one of its first part, or of the rest. -/
lemma bind_error {x : Tx σ ε α} {f : α → Tx σ ε β} :
    (x >>= f) s = (.error e, s') ↔
      x s = (.error e, s') ∨ ∃ a s₁, x s = (.ok a, s₁) ∧ f a s₁ = (.error e, s') := by
  change Tx.bind x f s = _ ↔ _
  unfold Tx.bind
  rcases x s with ⟨e' | a, s₁⟩
  · simp
  · simp

lemma discard_ok {x : Tx σ ε α} {u : PUnit} (h : (discard x : Tx σ ε PUnit) s = (.ok u, s')) :
    ∃ a, x s = (.ok a, s') := by
  obtain ⟨a, s₁, hx, hpure⟩ := bind_ok.mp h
  obtain ⟨-, rfl⟩ := pure_ok.mp hpure
  exact ⟨a, hx⟩

@[simp] lemma raise_ok : (raise e : Tx σ ε α) s = (.ok a, s') ↔ False := by
  simp [raise]

lemma require_ok {c : Prop} [Decidable c] {u : Unit} :
    (require c e : Tx σ ε Unit) s = (.ok u, s') ↔ c ∧ s = s' := by
  unfold require
  split_ifs with h
  · simp [Tx.pure, h]
  · simp [h]

lemma reads_ok {f : σ → α} : (reads f : Tx σ ε α) s = (.ok a, s') ↔ f s = a ∧ s = s' := by
  simp [reads]

lemma ofExcept_ok {x : Except ε α} :
    (ofExcept x : Tx σ ε α) s = (.ok a, s') ↔ x = .ok a ∧ s = s' := by
  simp [ofExcept]

lemma readsOrRaise_ok {f : σ → Except ε α} :
    (readsOrRaise f : Tx σ ε α) s = (.ok a, s') ↔ f s = .ok a ∧ s = s' := by
  simp [readsOrRaise]

lemma writes_ok {f : σ → Except ε σ} {u : Unit} :
    (writes f : Tx σ ε Unit) s = (.ok u, s') ↔ f s = .ok s' := by
  unfold writes
  rcases f s with _ | t
  · simp
  · simp

lemma transaction_ok {x : Tx σ ε α} : transaction x s = (.ok a, s') ↔ x s = (.ok a, s') := by
  unfold transaction
  rcases x s with ⟨_ | a, s₁⟩
  · simp
  · simp

lemma ite_ok {c : Prop} [Decidable c] {x y : Tx σ ε α} :
    (if c then x else y) s = (.ok a, s') ↔
      (c ∧ x s = (.ok a, s')) ∨ (¬ c ∧ y s = (.ok a, s')) := by
  split_ifs with h
  · simp [h]
  · simp [h]

end ok

/-! ## What a computation leaves unchanged -/

/-- A computation that never changes the state. -/
def ReadOnly (x : Tx σ ε α) : Prop := ∀ s, (x s).2 = s

/-- A computation that changes nothing when it raises. -/
def Atomic (x : Tx σ ε α) : Prop := ∀ s e s', x s = (.error e, s') → s' = s

section frame

variable {P : σ → Prop} {x : Tx σ ε α} {f : α → Tx σ ε β}

lemma readOnly_ofExcept (y : Except ε α) : ReadOnly (ofExcept y : Tx σ ε α) := fun _ => rfl

lemma readOnly_require (c : Prop) [Decidable c] (e : ε) :
    ReadOnly (require c e : Tx σ ε Unit) := by
  intro s
  unfold require
  split_ifs
  · rfl
  · rfl

/-- **A failing transaction changes nothing.** -/
lemma atomic_transaction (x : Tx σ ε α) : Atomic (transaction x) := by
  intro s e s' h
  unfold transaction at h
  rcases hx : x s with ⟨_ | a, s₁⟩
  · rw [hx] at h
    exact (Prod.mk.inj h).2.symm
  · rw [hx] at h
    cases h

/-- Checks before an atomic computation leave it atomic. -/
lemma Atomic.bind (hx : ReadOnly x) (hf : ∀ a, Atomic (f a)) : Atomic (x >>= f) := by
  intro s e s' h
  change Tx.bind x f s = _ at h
  unfold Tx.bind at h
  have hs := hx s
  rcases hxs : x s with ⟨e' | a, s₁⟩
  · rw [hxs] at h hs
    rw [← (Prod.mk.inj h).2]
    exact hs
  · rw [hxs] at h hs
    obtain rfl : s₁ = s := hs
    exact hf a s₁ e s' h

/-- A value computed from the result of an atomic computation leaves it atomic. -/
lemma Atomic.map (hx : Atomic x) (g : α → β) : Atomic (x >>= fun a => pure (g a)) := by
  intro s e s' h
  change Tx.bind x (fun a => Tx.pure (g a)) s = _ at h
  unfold Tx.bind at h
  rcases hxs : x s with ⟨e' | a, s₁⟩
  · rw [hxs] at h
    rw [← (Prod.mk.inj h).2]
    exact hx s e' s₁ hxs
  · rw [hxs] at h
    cases h

end frame

end Tx

end AgentRuntimeOps.Lib
