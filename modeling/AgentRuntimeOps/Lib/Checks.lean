import Mathlib.Tactic

/-!
# Checks that raise

A validation function returns `Except ε Unit` or the validated value; it is a sequence of
`require`s.  The `_ok` lemmas turn a successful validation into the conjunction of its conditions
and back.
-/

namespace AgentRuntimeOps.Lib

variable {ε α β : Type}

/-- `if not c: raise e`. -/
def require (c : Prop) [Decidable c] (e : ε) : Except ε Unit :=
  if c then .ok () else .error e

/-- The value, or `raise e` where there is none. -/
def orRaise (x : Option α) (e : ε) : Except ε α :=
  match x with
  | some a => .ok a
  | none => .error e

/-- `try: x except: raise e`, for the exceptions that satisfy `p`. -/
def convert (x : Except ε α) (p : ε → Bool) (e : ε) : Except ε α :=
  match x with
  | .ok a => .ok a
  | .error e' => .error (if p e' then e else e')

@[simp] lemma require_ok {c : Prop} [Decidable c] {e : ε} {u : Unit} :
    require c e = .ok u ↔ c := by
  unfold require
  split_ifs with h
  · simp [h]
  · simp [h]

lemma require_of {c : Prop} [Decidable c] {e : ε} (h : c) : require c e = .ok () := if_pos h

@[simp] lemma orRaise_ok {x : Option α} {e : ε} {a : α} : orRaise x e = .ok a ↔ x = some a := by
  cases x
  · simp [orRaise]
  · simp [orRaise]

@[simp] lemma convert_ok {x : Except ε α} {p : ε → Bool} {e : ε} {a : α} :
    convert x p e = .ok a ↔ x = .ok a := by
  cases x
  · simp [convert]
  · simp [convert]

@[simp] lemma mapError_ok {x : Except ε α} {f : ε → ε} {a : α} :
    x.mapError f = .ok a ↔ x = .ok a := by
  cases x
  · simp [Except.mapError]
  · simp [Except.mapError]

lemma except_ok_bind {a : α} {f : α → Except ε β} : ((Except.ok a : Except ε α) >>= f) = f a := rfl

lemma except_bind_ok {x : Except ε α} {f : α → Except ε β} {b : β} :
    (x >>= f) = .ok b ↔ ∃ a, x = .ok a ∧ f a = .ok b := by
  rcases x with e | a
  · constructor
    · intro h
      cases h
    · rintro ⟨a, ha, -⟩
      cases ha
  · constructor
    · intro h
      exact ⟨a, rfl, h⟩
    · rintro ⟨a', ha, h⟩
      cases ha
      exact h

lemma except_pure_ok {a b : α} : (pure a : Except ε α) = .ok b ↔ a = b := by
  change Except.ok a = .ok b ↔ _
  simp

/-- A check of a whole list. -/
def requireEach (check : α → Except ε Unit) : List α → Except ε Unit
  | [] => .ok ()
  | a :: as => do
    check a
    requireEach check as

@[simp] lemma requireEach_ok {check : α → Except ε Unit} {as : List α} {u : Unit} :
    requireEach check as = .ok u ↔ ∀ a ∈ as, check a = .ok () := by
  induction as with
  | nil => simp [requireEach]
  | cons a as ih =>
      rw [requireEach, except_bind_ok, List.forall_mem_cons]
      constructor
      · rintro ⟨_, ha, has⟩
        exact ⟨ha, ih.mp has⟩
      · rintro ⟨ha, has⟩
        exact ⟨(), ha, ih.mpr has⟩

/-! ## What a check raises -/

/-- Whatever `x` raises satisfies `p`. -/
def OnlyRaises (p : ε → Prop) (x : Except ε α) : Prop := ∀ e, x = .error e → p e

section raises

variable {p : ε → Prop}

@[simp] lemma onlyRaises_ok {a : α} : OnlyRaises p (.ok a : Except ε α) := nofun

@[simp] lemma onlyRaises_pure {a : α} : OnlyRaises p (pure a : Except ε α) := nofun

@[simp] lemma onlyRaises_error {e : ε} : OnlyRaises p (.error e : Except ε α) ↔ p e := by
  constructor
  · intro h
    exact h e rfl
  · intro h e' he'
    cases he'
    exact h

lemma onlyRaises_bind {x : Except ε α} {f : α → Except ε β} :
    OnlyRaises p (x >>= f) ↔ OnlyRaises p x ∧ ∀ a, x = .ok a → OnlyRaises p (f a) := by
  rcases x with e | a
  · change OnlyRaises p (.error e : Except ε β) ↔ _
    rw [onlyRaises_error, onlyRaises_error]
    exact ⟨fun h => ⟨h, nofun⟩, fun h => h.1⟩
  · change OnlyRaises p (f a) ↔ _
    constructor
    · intro h
      refine ⟨onlyRaises_ok, ?_⟩
      intro a' ha'
      cases ha'
      exact h
    · intro h
      exact h.2 a rfl

lemma onlyRaises_require {c : Prop} [Decidable c] {e : ε} :
    OnlyRaises p (require c e) ↔ c ∨ p e := by
  unfold require
  split_ifs with h
  · simp [h]
  · simp [h]

lemma onlyRaises_orRaise {x : Option α} {e : ε} :
    OnlyRaises p (orRaise x e) ↔ x = none → p e := by
  cases x
  · simp [orRaise]
  · simp [orRaise]

lemma onlyRaises_mapError {x : Except ε α} {f : ε → ε} (h : ∀ e, p (f e)) :
    OnlyRaises p (x.mapError f) := by
  intro e he
  cases x with
  | ok a => cases he
  | error e' =>
      cases he
      exact h e'

end raises

end AgentRuntimeOps.Lib
