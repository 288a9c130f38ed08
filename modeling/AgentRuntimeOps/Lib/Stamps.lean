import Mathlib.Data.List.Basic
import Mathlib.Tactic.SplitIfs

/-!
# Marked pairs in a list

A marker with an entry behind it that belongs to it is a pair.  `pairs` are the entries of the pairs
of a list and `others` what is in no pair.  A loop that skips whatever is behind a marker passes
`kept`; `kept_eq_others` says when it skips pairs only.
-/

namespace AgentRuntimeOps.Lib

namespace Stamps

variable {α : Type} [DecidableEq α] (marker : α) (own : α → Bool)

/-- The entries that are in pairs. -/
def pairs : List α → List α
  | line :: next :: rest =>
      if line = marker ∧ own next = true then next :: pairs rest else pairs (next :: rest)
  | _ => []

/-- What is in no pair. -/
def others : List α → List α
  | line :: next :: rest =>
      if line = marker ∧ own next = true then others rest else line :: others (next :: rest)
  | lines => lines

/-- What is neither a marker nor behind one. -/
def kept : List α → List α
  | line :: next :: rest => if line = marker then kept rest else line :: kept (next :: rest)
  | [line] => if line = marker then [] else [line]
  | [] => []

variable {marker own} {lines front rest : List α} {line entry : α}

/-! ## Lists without markers -/

lemma pairs_of_notMem (h : marker ∉ lines) : pairs marker own lines = [] := by
  fun_induction pairs marker own lines with
  | case1 line next rest hpair ih => exact absurd (hpair.1 ▸ List.mem_cons_self) h
  | case2 line next rest hpair ih => exact ih fun hmem => h (List.mem_cons_of_mem _ hmem)
  | case3 => rfl

lemma others_of_notMem (h : marker ∉ lines) : others marker own lines = lines := by
  fun_induction others marker own lines with
  | case1 line next rest hpair ih => exact absurd (hpair.1 ▸ List.mem_cons_self) h
  | case2 line next rest hpair ih => rw [ih fun hmem => h (List.mem_cons_of_mem _ hmem)]
  | case3 => rfl

lemma kept_of_notMem (h : marker ∉ lines) : kept marker lines = lines := by
  fun_induction kept marker lines with
  | case1 next rest ih => exact absurd List.mem_cons_self h
  | case2 line next rest hne ih => rw [ih fun hmem => h (List.mem_cons_of_mem _ hmem)]
  | case3 => exact absurd List.mem_cons_self h
  | case4 => rfl
  | case5 => rfl

/-! ## The first marker -/

lemma pairs_append (hfront : marker ∉ front) (hown : own entry = true) :
    pairs marker own (front ++ marker :: entry :: rest) = entry :: pairs marker own rest := by
  induction front with
  | nil => exact if_pos ⟨rfl, hown⟩
  | cons line front ih =>
      have hline : line ≠ marker := fun heq => hfront (heq ▸ List.mem_cons_self)
      have hrest := ih fun hmem => hfront (List.mem_cons_of_mem _ hmem)
      cases front with
      | nil => exact (if_neg fun hpair => hline hpair.1).trans hrest
      | cons next front => exact (if_neg fun hpair => hline hpair.1).trans hrest

lemma others_append (hfront : marker ∉ front) (hown : own entry = true) :
    others marker own (front ++ marker :: entry :: rest) = front ++ others marker own rest := by
  induction front with
  | nil => exact if_pos ⟨rfl, hown⟩
  | cons line front ih =>
      have hline : line ≠ marker := fun heq => hfront (heq ▸ List.mem_cons_self)
      have hrest := ih fun hmem => hfront (List.mem_cons_of_mem _ hmem)
      rw [List.cons_append, List.cons_append, ← hrest]
      cases front with
      | nil => exact if_neg fun hpair => hline hpair.1
      | cons next front => exact if_neg fun hpair => hline hpair.1

lemma kept_append (hfront : marker ∉ front) :
    kept marker (front ++ marker :: rest) = front ++ kept marker (rest.drop 1) := by
  induction front with
  | nil =>
      cases rest with
      | nil => exact if_pos rfl
      | cons next rest => exact if_pos rfl
  | cons line front ih =>
      have hline : line ≠ marker := fun heq => hfront (heq ▸ List.mem_cons_self)
      have hrest := ih fun hmem => hfront (List.mem_cons_of_mem _ hmem)
      rw [List.cons_append, List.cons_append, ← hrest]
      cases front with
      | nil => exact if_neg hline
      | cons next front => exact if_neg hline

/-! ## What is skipped -/

lemma notMem_kept (lines : List α) : marker ∉ kept marker lines := by
  fun_induction kept marker lines with
  | case1 next rest ih => exact ih
  | case2 line next rest hne ih => exact fun hmem => (List.mem_cons.mp hmem).elim (hne ·.symm) ih
  | case3 => exact List.not_mem_nil
  | case4 line hne => exact fun hmem => hne (List.mem_singleton.mp hmem).symm
  | case5 => exact List.not_mem_nil

lemma mem_of_mem_kept (h : line ∈ kept marker lines) : line ∈ lines := by
  fun_induction kept marker lines with
  | case1 next rest ih => exact List.mem_cons_of_mem _ (List.mem_cons_of_mem _ (ih h))
  | case2 line next rest hne ih =>
      exact (List.mem_cons.mp h).elim (· ▸ List.mem_cons_self) fun hmem =>
        List.mem_cons_of_mem _ (ih hmem)
  | case3 => exact absurd h List.not_mem_nil
  | case4 => exact h
  | case5 => exact h

/-- What belongs to no marker is in no pair. -/
lemma mem_others (h : line ∈ lines) (hne : line ≠ marker) (hown : own line = false) :
    line ∈ others marker own lines := by
  fun_induction others marker own lines with
  | case1 first next rest hpair ih =>
      obtain rfl | h := List.mem_cons.mp h
      · exact absurd hpair.1 hne
      · obtain rfl | h := List.mem_cons.mp h
        · rw [hown] at hpair
          cases hpair.2
        · exact ih h
  | case2 first next rest hpair ih =>
      obtain rfl | h := List.mem_cons.mp h
      · exact List.mem_cons_self
      · exact List.mem_cons_of_mem _ (ih h)
  | case3 => exact h

/-- Where every marker has its entry behind it, a loop that skips what is behind a marker skips the
pairs only. -/
lemma kept_eq_others (h : marker ∉ others marker own lines) :
    kept marker lines = others marker own lines := by
  fun_induction others marker own lines with
  | case1 line next rest hpair ih =>
      rw [← ih h]
      exact if_pos hpair.1
  | case2 line next rest hpair ih =>
      have hline : line ≠ marker := fun heq => h (heq ▸ List.mem_cons_self)
      rw [← ih fun hmem => h (List.mem_cons_of_mem _ hmem)]
      exact if_neg hline
  | case3 lines => exact kept_of_notMem h

end Stamps

end AgentRuntimeOps.Lib
