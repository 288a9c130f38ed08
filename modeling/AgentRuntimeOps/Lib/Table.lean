import Mathlib.Tactic
import Mathlib.Data.List.Nodup

/-!
# Keyed tables

A table is a list of rows whose primary keys are pairwise distinct.  The distinctness is a field
of the structure, so a table that violates its primary key cannot be built: `insert?` answers
`none` where a database would report an integrity error, and `updateWhere` takes a proof that the
assignment leaves the key alone.

Reading goes through `find?`; its three lemmas (`find?_eq_some_iff`, `find?_insert?`,
`find?_updateWhere`) are all that a client needs, and the client's proofs use them by name.
-/

set_option linter.unusedSectionVars false

namespace AgentRuntimeOps.Lib

/-- Rows of type `ρ` with pairwise distinct primary keys `key r`. -/
structure Table (ρ κ : Type) (key : ρ → κ) where
  /-- The rows, in insertion order. -/
  rows : List ρ
  /-- The primary key constraint. -/
  nodup : (rows.map key).Nodup

namespace Table

variable {ρ κ : Type} {key : ρ → κ}

instance [DecidableEq ρ] : DecidableEq (Table ρ κ key) := fun s t =>
  decidable_of_iff (s.rows = t.rows) ⟨fun h => by cases s; cases t; cases h; rfl, fun h => h ▸ rfl⟩

@[ext] lemma ext {s t : Table ρ κ key} (h : s.rows = t.rows) : s = t := by
  cases s; cases t; cases h; rfl

/-- The table without rows. -/
def empty : Table ρ κ key := ⟨[], List.nodup_nil⟩

@[simp] lemma empty_rows : (empty : Table ρ κ key).rows = [] := rfl

variable [DecidableEq κ]

/-- The row with key `k`, if there is one. -/
def find? (t : Table ρ κ key) (k : κ) : Option ρ := t.rows.find? fun r => key r = k

@[simp] lemma find?_empty (k : κ) : (empty : Table ρ κ key).find? k = none := rfl

lemma key_of_find? {t : Table ρ κ key} {k : κ} {r : ρ} (h : t.find? k = some r) : key r = k := by
  simpa using List.find?_some h

lemma mem_of_find? {t : Table ρ κ key} {k : κ} {r : ρ} (h : t.find? k = some r) : r ∈ t.rows :=
  List.mem_of_find?_eq_some h

/-- Two rows of a table with one key are one row. -/
lemma eq_of_key_eq {t : Table ρ κ key} {r r' : ρ} (hr : r ∈ t.rows) (hr' : r' ∈ t.rows)
    (h : key r = key r') : r = r' :=
  List.inj_on_of_nodup_map t.nodup hr hr' h

/-- A lookup succeeds with `r` exactly when `r` is a row with that key. -/
lemma find?_eq_some_iff {t : Table ρ κ key} {k : κ} {r : ρ} :
    t.find? k = some r ↔ r ∈ t.rows ∧ key r = k := by
  constructor
  · intro h
    exact ⟨mem_of_find? h, key_of_find? h⟩
  · rintro ⟨hr, rfl⟩
    rcases h : t.find? (key r) with _ | r'
    · rw [find?, List.find?_eq_none] at h
      exact absurd (by simp) (h r hr)
    · rw [eq_of_key_eq (mem_of_find? h) hr (key_of_find? h)]

lemma find?_of_mem {t : Table ρ κ key} {r : ρ} (h : r ∈ t.rows) : t.find? (key r) = some r :=
  find?_eq_some_iff.mpr ⟨h, rfl⟩

lemma find?_eq_none_iff {t : Table ρ κ key} {k : κ} :
    t.find? k = none ↔ ∀ r ∈ t.rows, key r ≠ k := by
  simp [find?, List.find?_eq_none]

/-! ## Insertion -/

/-- Insert a row; `none` when its key is already present. -/
def insert? (t : Table ρ κ key) (r : ρ) : Option (Table ρ κ key) :=
  if h : key r ∈ t.rows.map key then none
  else some ⟨t.rows ++ [r], by
    rw [List.map_append, List.nodup_append]
    refine ⟨t.nodup, by simp, ?_⟩
    intro a ha b hb hab
    rw [List.map_singleton, List.mem_singleton] at hb
    exact h (hb ▸ hab ▸ ha)⟩

lemma rows_insert? {t t' : Table ρ κ key} {r : ρ} (h : t.insert? r = some t') :
    t'.rows = t.rows ++ [r] := by
  unfold insert? at h
  split_ifs at h
  cases h
  rfl

lemma find?_none_of_insert? {t t' : Table ρ κ key} {r : ρ} (h : t.insert? r = some t') :
    t.find? (key r) = none := by
  unfold insert? at h
  split_ifs at h with hmem
  rw [find?_eq_none_iff]
  intro r' hr' hkey
  exact hmem (List.mem_map.mpr ⟨r', hr', hkey⟩)

/-- Insertion succeeds exactly when the key is new. -/
lemma insert?_eq_some {t : Table ρ κ key} {r : ρ} (h : t.find? (key r) = none) :
    ∃ t', t.insert? r = some t' ∧ t'.rows = t.rows ++ [r] := by
  have hmem : key r ∉ t.rows.map key := by
    intro hm
    obtain ⟨r', hr', hkey⟩ := List.mem_map.mp hm
    exact find?_eq_none_iff.mp h r' hr' hkey
  exact ⟨_, dif_neg hmem, rfl⟩

lemma mem_insert? {t t' : Table ρ κ key} {r : ρ} (h : t.insert? r = some t') {x : ρ} :
    x ∈ t'.rows ↔ x ∈ t.rows ∨ x = r := by
  rw [rows_insert? h, List.mem_append, List.mem_singleton]

/-- What a lookup sees after an insertion. -/
lemma find?_insert? {t t' : Table ρ κ key} {r : ρ} (h : t.insert? r = some t') (k : κ) :
    t'.find? k = if key r = k then some r else t.find? k := by
  split_ifs with hk
  · exact find?_eq_some_iff.mpr ⟨(mem_insert? h).mpr (Or.inr rfl), hk⟩
  · rw [find?, rows_insert? h, List.find?_append]
    simp [hk, find?]

/-! ## Updates -/

/-- `UPDATE … WHERE p`: apply `f` to the rows that satisfy `p`.  The assignment keeps the key. -/
def updateWhere (t : Table ρ κ key) (p : ρ → Bool) (f : ρ → ρ) (hf : ∀ r, key (f r) = key r) :
    Table ρ κ key where
  rows := t.rows.map fun r => if p r then f r else r
  nodup := by
    have hkeys : (t.rows.map fun r => if p r then f r else r).map key = t.rows.map key := by
      rw [List.map_map]
      apply List.map_congr_left
      intro r _
      simp only [Function.comp_apply]
      split_ifs
      · exact hf r
      · rfl
    rw [hkeys]
    exact t.nodup

/-- The row count an `UPDATE … WHERE p` reports. -/
def countWhere (t : Table ρ κ key) (p : ρ → Bool) : Nat := t.rows.countP p

variable {p : ρ → Bool} {f : ρ → ρ} {hf : ∀ r, key (f r) = key r}

lemma rows_updateWhere (t : Table ρ κ key) :
    (t.updateWhere p f hf).rows = t.rows.map fun r => if p r then f r else r := rfl

/-- What a lookup sees after an update. -/
lemma find?_updateWhere (t : Table ρ κ key) (k : κ) :
    (t.updateWhere p f hf).find? k = (t.find? k).map fun r => if p r then f r else r := by
  rw [find?, rows_updateWhere, List.find?_map]
  have hcongr : (fun r => decide (key r = k)) ∘ (fun r => if p r then f r else r) =
      fun r => decide (key r = k) := by
    funext r
    simp only [Function.comp_apply]
    split_ifs
    · rw [hf r]
    · rfl
  rw [hcongr]
  rfl

lemma mem_updateWhere {t : Table ρ κ key} {x : ρ} :
    x ∈ (t.updateWhere p f hf).rows ↔ ∃ r ∈ t.rows, (if p r then f r else r) = x := by
  rw [rows_updateWhere, List.mem_map]

/-- What holds of every row still does when the assignment establishes it. -/
lemma forall_updateWhere {t : Table ρ κ key} {Q : ρ → Prop} (hf : ∀ r, key (f r) = key r)
    (hrows : ∀ r ∈ t.rows, Q r) (hset : ∀ r ∈ t.rows, p r = true → Q (f r)) :
    ∀ r ∈ (t.updateWhere p f hf).rows, Q r := by
  intro r hr
  obtain ⟨r', hr', rfl⟩ := mem_updateWhere.mp hr
  split_ifs with hp
  · exact hset r' hr' hp
  · exact hrows r' hr'

lemma length_updateWhere (t : Table ρ κ key) :
    (t.updateWhere p f hf).rows.length = t.rows.length := by
  rw [rows_updateWhere, List.length_map]

/-- A `WHERE` clause that pins the key matches one row when the row found there satisfies it. -/
lemma countWhere_eq_one {t : Table ρ κ key} {k : κ} {r : ρ} (hr : t.find? k = some r)
    (hp : p r = true) (hkey : ∀ x, p x = true → key x = k) : t.countWhere p = 1 := by
  have hmem := mem_of_find? hr
  have hall : ∀ x ∈ t.rows, p x = true → x = r := fun x hx hpx =>
    eq_of_key_eq hx hmem ((hkey x hpx).trans (key_of_find? hr).symm)
  have hnodup : t.rows.Nodup := List.Nodup.of_map key t.nodup
  rw [countWhere, List.countP_eq_length_filter]
  have hfilter : t.rows.filter p = [r] := by
    apply List.perm_singleton.mp
    refine (List.perm_ext_iff_of_nodup (hnodup.filter p) (by simp)).mpr fun x => ?_
    rw [List.mem_filter, List.mem_singleton]
    constructor
    · rintro ⟨hx, hpx⟩
      exact hall x hx hpx
    · rintro rfl
      exact ⟨hmem, hp⟩
  rw [hfilter, List.length_singleton]

end Table

end AgentRuntimeOps.Lib
