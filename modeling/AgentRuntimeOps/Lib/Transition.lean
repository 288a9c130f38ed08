import Mathlib.Tactic

/-!
# Runs of a transition system

A system is a partial step function `step : C → S → Option S`: the scheduler makes a choice
`c : C`, and the step is taken when the choice is enabled.  `Reaches step ok s s'` says that some
run leads from `s` to `s'` all of whose steps meet the condition `ok` (a predicate on the state
before the step and the choice); `fun _ _ => True` is the condition of an unrestricted run.

`Reaches.invariant` is the one induction over runs: a property that holds at the start and that
every allowed step preserves holds in every state reached.
-/

namespace AgentRuntimeOps.Lib

variable {S C : Type}

/-- `s'` is reached from `s` by steps that all meet `ok`. -/
inductive Reaches (step : C → S → Option S) (ok : S → C → Prop) (s : S) : S → Prop where
  /-- The empty run. -/
  | refl : Reaches step ok s s
  /-- A run and one further step. -/
  | tail {t u : S} {c : C} : Reaches step ok s t → ok t c → step c t = some u → Reaches step ok s u

/-- Any run at all. -/
abbrev AnyStep : S → C → Prop := fun _ _ => True

namespace Reaches

variable {step : C → S → Option S} {ok ok' : S → C → Prop} {s t u : S}

/-- **Invariants.** What holds at the start and is preserved by every allowed step holds in every
state reached. -/
theorem invariant {P : S → Prop} (h : Reaches step ok s t) (hs : P s)
    (hstep : ∀ a b c, P a → ok a c → step c a = some b → P b) : P t := by
  induction h with
  | refl => exact hs
  | tail _ hok hc ih => exact hstep _ _ _ ih hok hc

theorem trans (h : Reaches step ok s t) (h' : Reaches step ok t u) : Reaches step ok s u := by
  induction h' with
  | refl => exact h
  | tail _ hok hc ih => exact ih.tail hok hc

theorem mono (h : Reaches step ok s t) (hok : ∀ a c, ok a c → ok' a c) :
    Reaches step ok' s t := by
  induction h with
  | refl => exact .refl
  | tail _ hc hstep ih => exact ih.tail (hok _ _ hc) hstep

theorem unrestricted (h : Reaches step ok s t) : Reaches step AnyStep s t :=
  h.mono fun _ _ _ => trivial

end Reaches

end AgentRuntimeOps.Lib
