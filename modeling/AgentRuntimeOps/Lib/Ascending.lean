import Mathlib

/-!
# Lists in the order of a key

A list whose keys ascend is cut in two by a bound (`filter_le_append_filter_lt`), and taking some
of what lies above the bound moves the bound to the last key taken (`filter_le_append_take`).
-/

namespace AgentRuntimeOps.Lib

variable {α κ : Type} [LinearOrder κ] {key : α → κ} {l : List α} {a : κ}

lemma filter_le_append_filter_lt (h : (l.map key).Pairwise (· < ·)) (a : κ) :
    l.filter (fun x => key x ≤ a) ++ l.filter (fun x => a < key x) = l := by
  induction l with
  | nil => rfl
  | cons x xs ih =>
      rw [List.map_cons, List.pairwise_cons] at h
      have hxs := ih h.2
      by_cases hx : key x ≤ a
      · rw [List.filter_cons_of_pos (by simpa using hx),
          List.filter_cons_of_neg (by simpa using hx), List.cons_append, hxs]
      · -- everything after `x` is above the bound too
        have habove : ∀ y ∈ xs, a < key y := fun y hy =>
          (not_le.mp hx).trans (h.1 (key y) (List.mem_map_of_mem hy))
        have hnone : xs.filter (fun y => key y ≤ a) = [] := by
          rw [List.filter_eq_nil_iff]
          intro y hy
          simpa using habove y hy
        rw [hnone, List.nil_append] at hxs
        rw [List.filter_cons_of_neg (by simpa using hx),
          List.filter_cons_of_pos (by simpa using hx), hnone, hxs, List.nil_append]

/-- The last of these keys, or the bound where there is none. -/
def lastKey (key : α → κ) (bound : κ) (items : List α) : κ := ((items.map key).getLast?).getD bound

lemma le_lastKey {items : List α} (h : (items.map key).Pairwise (· < ·))
    (habove : ∀ x ∈ items, a < key x) {x : α} (hx : x ∈ items) : key x ≤ lastKey key a items := by
  induction items using List.reverseRecOn with
  | nil => cases hx
  | append_singleton front last _ =>
      have hlast : lastKey key a (front ++ [last]) = key last := by simp [lastKey]
      rw [hlast]
      rcases List.mem_append.mp hx with hx | hx
      · rw [List.map_append, List.pairwise_append] at h
        exact (h.2.2 (key x) (List.mem_map_of_mem hx) (key last) (by simp)).le
      · rw [List.mem_singleton.mp hx]

lemma bound_le_lastKey {items : List α} (habove : ∀ x ∈ items, a < key x) :
    a ≤ lastKey key a items := by
  unfold lastKey
  cases hlast : (items.map key).getLast? with
  | none => simp
  | some b =>
      obtain ⟨x, hx, rfl⟩ := List.mem_map.mp (List.mem_of_getLast? hlast)
      exact (habove x hx).le

lemma lastKey_lt {items : List α} {b : κ} (hbound : a < b) (h : ∀ x ∈ items, key x < b) :
    lastKey key a items < b := by
  unfold lastKey
  cases hlast : (items.map key).getLast? with
  | none => simpa using hbound
  | some c =>
      obtain ⟨x, hx, rfl⟩ := List.mem_map.mp (List.mem_of_getLast? hlast)
      exact h x hx

/-- What lies below the bound, and the first `n` above it, is what lies below the last of these. -/
theorem filter_le_append_take (h : (l.map key).Pairwise (· < ·)) (a : κ) (n : Nat) :
    l.filter (fun x => key x ≤ a) ++ (l.filter fun x => a < key x).take n =
      l.filter fun x => key x ≤ lastKey key a ((l.filter fun x => a < key x).take n) := by
  have hsplit := filter_le_append_filter_lt h a
  set below := l.filter fun x => key x ≤ a with hbelow
  set above := l.filter fun x => a < key x with habove
  have hlt : ∀ x ∈ above, a < key x := fun x hx => by
    simpa using (List.mem_filter.mp hx).2
  have hsorted : (above.map key).Pairwise (· < ·) :=
    h.sublist (List.filter_sublist.map key)
  have htake : ∀ x ∈ above.take n, a < key x := fun x hx => hlt x (List.mem_of_mem_take hx)
  have hparts : (above.take n ++ above.drop n).map key |>.Pairwise (· < ·) := by
    rw [List.take_append_drop]
    exact hsorted
  rw [List.map_append, List.pairwise_append] at hparts
  set last := lastKey key a (above.take n) with hlast
  have hfilterBelow : below.filter (fun x => key x ≤ last) = below := by
    rw [List.filter_eq_self]
    intro x hx
    have hxa : key x ≤ a := by simpa using (List.mem_filter.mp hx).2
    simpa using hxa.trans (bound_le_lastKey htake)
  have hfilterTake : (above.take n).filter (fun x => key x ≤ last) = above.take n := by
    rw [List.filter_eq_self]
    intro x hx
    simpa using le_lastKey hparts.1 htake hx
  have hfilterDrop : (above.drop n).filter (fun x => key x ≤ last) = [] := by
    rw [List.filter_eq_nil_iff]
    intro x hx
    have hxlast : last < key x := by
      refine lastKey_lt (hlt x (List.mem_of_mem_drop hx)) fun y hy => ?_
      exact hparts.2.2 (key y) (List.mem_map_of_mem hy) (key x) (List.mem_map_of_mem hx)
    simpa using hxlast
  calc below ++ above.take n
      = (below ++ (above.take n ++ above.drop n)).filter (fun x => key x ≤ last) := by
        rw [List.filter_append, List.filter_append, hfilterBelow, hfilterTake, hfilterDrop,
          List.append_nil]
    _ = l.filter (fun x => key x ≤ last) := by
        rw [List.take_append_drop, hsplit]

/-- What is taken from a prefix is taken from the whole. -/
lemma take_filter_of_prefix {seen : List α} (p : α → Bool) (h : seen <+: l) (n : Nat) :
    ∃ m, (seen.filter p).take n = (l.filter p).take m := by
  obtain ⟨rest, rfl⟩ := h
  refine ⟨min n (seen.filter p).length, ?_⟩
  rw [List.filter_append, List.take_append_of_le_length (min_le_right _ _), ← List.take_take,
    List.take_length]

end AgentRuntimeOps.Lib
