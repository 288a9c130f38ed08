import Mathlib.Logic.Function.Basic
import Mathlib.Data.List.Basic

/-!
# A table that is rewritten whole

Several processes change one row each of a shared table: each reads the whole table, and later writes
a whole table back.  A write is *current* when, apart from the row that it changes, it writes what is
stored.  If every write is current, the table is what the changes make of it one after the other
(`replay`), whatever was read when.
-/

namespace AgentRuntimeOps.Lib

variable {κ ρ : Type} [DecidableEq κ]

/-- A row is put, or dropped. -/
structure RowChange (κ ρ : Type) where
  key : κ
  row : Option ρ

/-- The table after a change. -/
def RowChange.apply (c : RowChange κ ρ) (table : κ → Option ρ) : κ → Option ρ :=
  Function.update table c.key c.row

/-- The table after some changes, the last one first. -/
def replay (table : κ → Option ρ) : List (RowChange κ ρ) → κ → Option ρ
  | [] => table
  | c :: cs => c.apply (replay table cs)

lemma apply_self (c : RowChange κ ρ) (table : κ → Option ρ) : c.apply table c.key = c.row :=
  Function.update_self _ _ _

lemma apply_of_ne {c : RowChange κ ρ} {table : κ → Option ρ} {key : κ} (h : key ≠ c.key) :
    c.apply table key = table key := Function.update_of_ne h _ _

/-- A row is what its last change made it; later changes may say the same again. -/
theorem replay_of_last {table : κ → Option ρ} {newer older : List (RowChange κ ρ)}
    {c : RowChange κ ρ} (h : ∀ d ∈ newer, d.key = c.key → d.row = c.row) :
    replay table (newer ++ c :: older) c.key = c.row := by
  induction newer with
  | nil => exact apply_self c _
  | cons d newer ih =>
      have hrest := ih fun e he => h e (List.mem_cons_of_mem _ he)
      show d.apply (replay table (newer ++ c :: older)) c.key = c.row
      by_cases hkey : d.key = c.key
      · rw [← hkey, apply_self, h d List.mem_cons_self hkey]
      · rw [apply_of_ne (Ne.symm hkey), hrest]

/-- The changes of other rows do not matter to a row. -/
theorem replay_filter (table : κ → Option ρ) (cs : List (RowChange κ ρ)) (key : κ) :
    replay table (cs.filter fun c => c.key = key) key = replay table cs key := by
  induction cs with
  | nil => rfl
  | cons c cs ih =>
      by_cases hkey : c.key = key
      · rw [List.filter_cons_of_pos (by simpa using hkey)]
        subst hkey
        exact (apply_self c _).trans (apply_self c _).symm
      · rw [List.filter_cons_of_neg (by simpa using hkey), ih]
        exact (apply_of_ne (Ne.symm hkey)).symm

/-- What is written is what is stored, but for the row of the change. -/
structure CurrentWrite (stored written : κ → Option ρ) (c : RowChange κ ρ) : Prop where
  own : written c.key = c.row
  others : ∀ key, key ≠ c.key → written key = stored key

theorem CurrentWrite.eq_apply {stored written : κ → Option ρ} {c : RowChange κ ρ}
    (h : CurrentWrite stored written c) : written = c.apply stored := by
  funext key
  by_cases hkey : key = c.key
  · subst hkey
    rw [h.own, apply_self]
  · rw [h.others key hkey, apply_of_ne hkey]

end AgentRuntimeOps.Lib
