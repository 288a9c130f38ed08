import AgentRuntimeOps.Config.Basic
import Mathlib.Data.List.Perm.Subperm
import Mathlib.Data.List.Sort

/-!
# What a diff says

A path of keys leads to a topmost difference of two values if the values at its end differ and are
not both objects, or if one of them is missing (`Differs`).  `config_json_diff` has one line for
each, as Python compares values.
-/

namespace AgentRuntimeOps.Config

open AgentRuntimeOps.Lib

/-! ## Fields -/

section fields

variable {xs ys : Fields} {key : Text} {x y : Value}

lemma lookup_eq_some_iff (h : (xs.map Prod.fst).Nodup) :
    xs.lookup key = some x ↔ (key, x) ∈ xs := by
  induction xs with
  | nil => exact ⟨nofun, nofun⟩
  | cons field rest ih =>
      obtain ⟨name, first⟩ := field
      obtain ⟨hname, hrest⟩ := List.nodup_cons.mp h
      rw [List.lookup_cons, List.mem_cons, Prod.mk.injEq]
      by_cases hkey : key = name
      · subst hkey
        have hnot : (key, x) ∉ rest := fun hmem => hname (List.mem_map.mpr ⟨_, hmem, rfl⟩)
        simp [hnot, eq_comm]
      · rw [beq_false_of_ne hkey]
        simp [hkey, ih hrest]

lemma lookup_isSome_iff : (xs.lookup key).isSome = true ↔ key ∈ xs.map Prod.fst := by
  induction xs with
  | nil => simp
  | cons field rest ih =>
      obtain ⟨name, first⟩ := field
      rw [List.lookup_cons, List.map_cons, List.mem_cons]
      by_cases hkey : key = name
      · simp [hkey]
      · rw [beq_false_of_ne hkey]
        simp [hkey, ih]

lemma named_of_lookup (h : Value.NamedFields xs) (hx : xs.lookup key = some x) : x.Named := by
  induction xs with
  | nil => cases hx
  | cons field rest ih =>
      obtain ⟨name, first⟩ := field
      rw [List.lookup_cons] at hx
      split at hx
      · cases hx
        exact h.1
      · exact ih h.2 hx

/-- Two values under one key are compared by `related`. -/
def Aligned (related : Value → Value → Prop) : Option Value → Option Value → Prop
  | some x, some y => related x y
  | none, none => True
  | _, _ => False

variable {eq : Atom → Atom → Bool}

lemma equalFields_iff : Value.equalFields eq xs ys = true ↔
    ∀ field ∈ xs, ∃ y, ys.lookup field.1 = some y ∧ field.2.equalBy eq y = true := by
  induction xs with
  | nil => simp [Value.equalFields]
  | cons field rest ih =>
      obtain ⟨name, first⟩ := field
      rw [Value.equalFields, Bool.and_eq_true, ih, List.forall_mem_cons]
      refine and_congr_left fun _ => ?_
      cases ys.lookup name with
      | none => exact ⟨nofun, nofun⟩
      | some y => simp

/-- Dictionaries are equal if they have the same keys with equal values. -/
lemma equal_obj_iff (hx : (xs.map Prod.fst).Nodup) (hy : (ys.map Prod.fst).Nodup) :
    (Value.obj xs).equalBy eq (.obj ys) = true ↔
      ∀ key, Aligned (fun x y => x.equalBy eq y = true) (xs.lookup key) (ys.lookup key) := by
  rw [Value.equalBy, Bool.and_eq_true, beq_iff_eq, equalFields_iff]
  constructor
  · rintro ⟨hlength, hfields⟩ key
    have hsub : xs.map Prod.fst ⊆ ys.map Prod.fst := by
      intro name hname
      obtain ⟨field, hfield, rfl⟩ := List.mem_map.mp hname
      obtain ⟨y, hy, -⟩ := hfields field hfield
      exact lookup_isSome_iff.mp (by rw [hy]; rfl)
    have hperm : (xs.map Prod.fst).Perm (ys.map Prod.fst) :=
      (List.subperm_of_subset hx hsub).perm_of_length_le (by simp [hlength])
    cases hxkey : xs.lookup key with
    | some x =>
        obtain ⟨y, hykey, hequal⟩ := hfields (key, x) ((lookup_eq_some_iff hx).mp hxkey)
        rw [hykey]
        exact hequal
    | none =>
        cases hykey : ys.lookup key with
        | none => exact trivial
        | some y =>
            have hmem := hperm.mem_iff.mpr (lookup_isSome_iff.mp (by rw [hykey]; rfl))
            rw [← lookup_isSome_iff, hxkey] at hmem
            cases hmem
  · intro haligned
    have hperm : (xs.map Prod.fst).Perm (ys.map Prod.fst) := by
      refine (List.perm_ext_iff_of_nodup hx hy).mpr fun key => ?_
      rw [← lookup_isSome_iff, ← lookup_isSome_iff]
      have hkey := haligned key
      cases hxkey : xs.lookup key <;> cases hykey : ys.lookup key <;>
        simp_all [Aligned]
    refine ⟨by simpa using hperm.length_eq, fun field hfield => ?_⟩
    have hkey := haligned field.1
    rw [(lookup_eq_some_iff hx).mpr hfield] at hkey
    cases hykey : ys.lookup field.1 with
    | none =>
        rw [hykey] at hkey
        exact hkey.elim
    | some y =>
        rw [hykey] at hkey
        exact ⟨y, rfl, hkey⟩

end fields

/-! ## Differences -/

/-- How a value differs. -/
inductive Change where
  | added (y : Value)
  | removed (x : Value)
  | changed (x y : Value)

/-- The same difference, the other way round. -/
def Change.swap : Change → Change
  | added y => removed y
  | removed x => added x
  | changed x y => changed y x

/-- The values stand under one path, and are not both objects. -/
inductive Compared : Value → Value → Value → Value → Prop where
  | here {x y : Value} (hleaf : (x.isObject && y.isObject) = false) : Compared x y x y
  | inside {xs ys : Fields} {key : Text} {x y v w : Value} (hx : xs.lookup key = some x)
      (hy : ys.lookup key = some y) (hbelow : Compared x y v w) : Compared (.obj xs) (.obj ys) v w

section differences

-- How values that hold no others are compared.
variable (eq : Atom → Atom → Bool)

/-- The path leads to a topmost difference. -/
inductive Differs : Value → Value → List Text → Change → Prop where
  | here {x y : Value} (hleaf : (x.isObject && y.isObject) = false)
      (hne : x.equalBy eq y = false) : Differs x y [] (.changed x y)
  | removed {xs ys : Fields} {key : Text} {x : Value} (hx : xs.lookup key = some x)
      (hy : ys.lookup key = none) : Differs (.obj xs) (.obj ys) [key] (.removed x)
  | added {xs ys : Fields} {key : Text} {y : Value} (hx : xs.lookup key = none)
      (hy : ys.lookup key = some y) : Differs (.obj xs) (.obj ys) [key] (.added y)
  | inside {xs ys : Fields} {key : Text} {x y : Value} {path : List Text} {change : Change}
      (hx : xs.lookup key = some x) (hy : ys.lookup key = some y)
      (hbelow : Differs x y path change) : Differs (.obj xs) (.obj ys) (key :: path) change

/-- The topmost differences, key by key. -/
def topmost (before after : Value) : List (List Text × Change) :=
  match before, after with
  | .obj xs, .obj ys =>
      (sortedKeys xs ys).flatMap fun key =>
        match _hx : xs.lookup key, ys.lookup key with
        | some x, none => [([key], .removed x)]
        | none, some y => [([key], .added y)]
        | some x, some y => (topmost x y).map fun entry => (key :: entry.1, entry.2)
        | none, none => []
  | x, y => if x.equalBy eq y then [] else [([], .changed x y)]
termination_by sizeOf before
decreasing_by
  have hlt := sizeOf_of_lookup _hx
  simp only [Value.obj.sizeOf_spec]
  omega

variable {eq} {x y : Value} {xs ys : Fields} {key : Text} {path : List Text} {change : Change}

/-- The differences under one key. -/
def under (found : Value → Value → List (List Text × Change)) (key : Text) :
    Option Value → Option Value → List (List Text × Change)
  | some x, none => [([key], .removed x)]
  | none, some y => [([key], .added y)]
  | some x, some y => (found x y).map fun entry => (key :: entry.1, entry.2)
  | none, none => []

lemma topmost_obj : topmost eq (.obj xs) (.obj ys) =
    (sortedKeys xs ys).flatMap fun key =>
      under (topmost eq) key (xs.lookup key) (ys.lookup key) := by
  rw [topmost]
  refine List.flatMap_congr fun key _ => ?_
  split <;> rename_i hx hy <;> rw [hx, hy] <;> rfl

lemma topmost_leaf (h : (x.isObject && y.isObject) = false) :
    topmost eq x y = if x.equalBy eq y then [] else [([], .changed x y)] := by
  cases x with
  | obj xs =>
      cases y with
      | obj ys => cases h
      | _ => rw [topmost]; simp
  | _ => rw [topmost]; simp

lemma mem_sortedKeys : key ∈ sortedKeys xs ys ↔
    (xs.lookup key).isSome = true ∨ (ys.lookup key).isSome = true := by
  unfold sortedKeys
  rw [List.mem_insertionSort, List.mem_dedup, List.mem_append, lookup_isSome_iff,
    lookup_isSome_iff]

lemma nodup_sortedKeys : (sortedKeys xs ys).Nodup :=
  (List.perm_insertionSort _ _).nodup_iff.mpr (List.nodup_dedup _)

/-- Two values are compared key by key as long as both are objects. -/
lemma value_induction {P : Value → Value → Prop}
    (hleaf : ∀ x y, (x.isObject && y.isObject) = false → P x y)
    (hobj : ∀ xs ys, (∀ key x y, xs.lookup key = some x → ys.lookup key = some y → P x y) →
      P (.obj xs) (.obj ys)) (x y : Value) : P x y := by
  induction hsize : sizeOf x using Nat.strong_induction_on generalizing x y with
  | _ size ih =>
    subst hsize
    match x, y with
    | .obj xs, .obj ys =>
        refine hobj xs ys fun key x y hx _ => ih (sizeOf x) ?_ x y rfl
        have hlt := sizeOf_of_lookup hx
        rw [Value.obj.sizeOf_spec]
        omega
    | .atom _, _ => exact hleaf _ _ rfl
    | .arr _, _ => exact hleaf _ _ rfl
    | .obj _, .atom _ => exact hleaf _ _ rfl
    | .obj _, .arr _ => exact hleaf _ _ rfl

/-- Every topmost difference is found, and nothing else. -/
lemma mem_topmost : (path, change) ∈ topmost eq x y ↔ Differs eq x y path change := by
  induction x, y using value_induction generalizing path change with
  | hleaf x y hleaf =>
      rw [topmost_leaf hleaf]
      constructor
      · intro hmem
        split_ifs at hmem with hequal
        · exact absurd hmem List.not_mem_nil
        · cases List.mem_singleton.mp hmem
          exact .here hleaf (Bool.eq_false_iff.mpr hequal)
      · intro h
        cases h with
        | here _ hne => simp [hne]
        | _ => cases hleaf
  | hobj xs ys ih =>
      rw [topmost_obj, List.mem_flatMap]
      constructor
      · rintro ⟨key, -, hmem⟩
        cases hx : xs.lookup key <;> cases hy : ys.lookup key <;>
          simp only [hx, hy, under, List.mem_singleton, List.mem_map, Prod.mk.injEq,
            List.not_mem_nil] at hmem
        · obtain ⟨rfl, rfl⟩ := hmem
          exact .added hx hy
        · obtain ⟨rfl, rfl⟩ := hmem
          exact .removed hx hy
        · obtain ⟨⟨tail, found⟩, hmem, rfl, rfl⟩ := hmem
          exact .inside hx hy ((ih key _ _ hx hy).mp hmem)
      · intro h
        cases h with
        | here hleaf => cases hleaf
        | @removed _ _ key x hx hy =>
            refine ⟨key, mem_sortedKeys.mpr (.inl (by rw [hx]; rfl)), ?_⟩
            rw [hx, hy]
            exact List.mem_cons_self
        | @added _ _ key y hx hy =>
            refine ⟨key, mem_sortedKeys.mpr (.inr (by rw [hy]; rfl)), ?_⟩
            rw [hx, hy]
            exact List.mem_cons_self
        | @inside _ _ key x y path change hx hy h =>
            refine ⟨key, mem_sortedKeys.mpr (.inl (by rw [hx]; rfl)), ?_⟩
            rw [hx, hy]
            exact List.mem_map.mpr ⟨(path, change), (ih key x y hx hy).mpr h, rfl⟩

/-- What is found under a key has the key in front. -/
lemma head?_of_mem_under {found : Value → Value → List (List Text × Change)} {x y : Option Value}
    (h : path ∈ (under found key x y).map Prod.fst) : path.head? = some key := by
  obtain ⟨entry, hentry, rfl⟩ := List.mem_map.mp h
  cases x <;> cases y <;>
    simp only [under, List.mem_singleton, List.mem_map, List.not_mem_nil] at hentry
  · rw [hentry]
    rfl
  · rw [hentry]
    rfl
  · obtain ⟨below, -, rfl⟩ := hentry
    rfl

/-- A path leads to one topmost difference. -/
lemma nodup_topmost : ((topmost eq x y).map Prod.fst).Nodup := by
  induction x, y using value_induction with
  | hleaf x y hleaf =>
      rw [topmost_leaf hleaf]
      split_ifs
      · exact List.nodup_nil
      · exact List.nodup_singleton _
  | hobj xs ys ih =>
      rw [topmost_obj, List.map_flatMap, List.nodup_flatMap]
      constructor
      · intro key _
        cases hx : xs.lookup key <;> cases hy : ys.lookup key
        · exact List.nodup_nil
        · exact List.nodup_singleton _
        · exact List.nodup_singleton _
        · rename_i x y
          have hbelow := ih key x y hx hy
          have hmap : (under (topmost eq) key (some x) (some y)).map Prod.fst =
              ((topmost eq x y).map Prod.fst).map (key :: ·) := by
            simp [under, List.map_map, Function.comp_def]
          rw [hmap]
          exact hbelow.map (List.cons_injective)
      · refine nodup_sortedKeys.imp fun {a b} hne path ha hb => hne ?_
        exact Option.some.inj ((head?_of_mem_under ha).symm.trans (head?_of_mem_under hb))

/-- Values without a topmost difference are equal. -/
lemma topmost_eq_nil_iff (hx : x.Named) (hy : y.Named) :
    topmost eq x y = [] ↔ x.equalBy eq y = true := by
  induction x, y using value_induction with
  | hleaf x y hleaf =>
      rw [topmost_leaf hleaf]
      cases x.equalBy eq y <;> simp
  | hobj xs ys ih =>
      rw [topmost_obj, List.flatMap_eq_nil_iff, equal_obj_iff hx.1 hy.1]
      refine ⟨fun h key => ?_, fun h key _ => ?_⟩
      · by_cases hmem : key ∈ sortedKeys xs ys
        · have hkey := h key hmem
          cases hxkey : xs.lookup key <;> cases hykey : ys.lookup key <;>
            simp only [hxkey, hykey, under, List.map_eq_nil_iff, reduceCtorEq] at hkey
          · trivial
          · exact (ih key _ _ hxkey hykey (named_of_lookup hx.2 hxkey)
              (named_of_lookup hy.2 hykey)).mp hkey
        · rw [mem_sortedKeys, not_or, Option.not_isSome_iff_eq_none,
            Option.not_isSome_iff_eq_none] at hmem
          rw [hmem.1, hmem.2]
          trivial
      · have hkey := h key
        cases hxkey : xs.lookup key <;> cases hykey : ys.lookup key <;>
          simp only [hxkey, hykey, Aligned] at hkey
        · rfl
        · rename_i x y
          exact List.map_eq_nil_iff.mpr ((ih key x y hxkey hykey (named_of_lookup hx.2 hxkey)
            (named_of_lookup hy.2 hykey)).mpr hkey)

mutual
/-- Equality is symmetric. -/
lemma equalBy_comm (heq : ∀ a b, eq a b = eq b a) : ∀ {x y : Value}, x.Named → y.Named →
    x.equalBy eq y = y.equalBy eq x
  | .atom a, .atom b, _, _ => by
      rw [Value.equalBy, Value.equalBy, heq]
  | .arr xs, .arr ys, hx, hy => by
      rw [Value.equalBy, Value.equalBy]
      exact equalItems_comm heq hx hy
  | .obj xs, .obj ys, hx, hy => by
      rw [Bool.eq_iff_iff, equal_obj_iff hx.1 hy.1, equal_obj_iff hy.1 hx.1]
      refine forall_congr' fun key => ?_
      cases hxkey : xs.lookup key <;> cases hykey : ys.lookup key <;> simp only [Aligned]
      rename_i x y
      have hlt := sizeOf_of_lookup hxkey
      rw [equalBy_comm heq (named_of_lookup hx.2 hxkey) (named_of_lookup hy.2 hykey)]
  | .atom _, .arr _, _, _ => by simp [Value.equalBy]
  | .atom _, .obj _, _, _ => by simp [Value.equalBy]
  | .arr _, .atom _, _, _ => by simp [Value.equalBy]
  | .arr _, .obj _, _, _ => by simp [Value.equalBy]
  | .obj _, .atom _, _, _ => by simp [Value.equalBy]
  | .obj _, .arr _, _, _ => by simp [Value.equalBy]
termination_by x => sizeOf x

lemma equalItems_comm (heq : ∀ a b, eq a b = eq b a) : ∀ {xs ys : List Value},
    Value.NamedItems xs → Value.NamedItems ys →
      Value.equalItems eq xs ys = Value.equalItems eq ys xs
  | [], [], _, _ => rfl
  | [], _ :: _, _, _ => by simp [Value.equalItems]
  | _ :: _, [], _, _ => by simp [Value.equalItems]
  | x :: xs, y :: ys, hx, hy => by
      rw [Value.equalItems, Value.equalItems, equalBy_comm heq hx.1 hy.1,
        equalItems_comm heq hx.2 hy.2]
termination_by xs => sizeOf xs
end

lemma sortedKeys_comm : sortedKeys xs ys = sortedKeys ys xs := by
  refine List.Perm.eq_of_sortedLE List.sortedLE_insertionSort List.sortedLE_insertionSort ?_
  refine (List.perm_insertionSort _ _).trans (.trans ?_ (List.perm_insertionSort _ _).symm)
  exact List.perm_append_comm.dedup

/-- With the values exchanged the same paths are found. -/
lemma topmost_swap (heq : ∀ a b, eq a b = eq b a) (hx : x.Named) (hy : y.Named) :
    topmost eq y x = (topmost eq x y).map fun entry => (entry.1, entry.2.swap) := by
  induction x, y using value_induction with
  | hleaf x y hleaf =>
      rw [topmost_leaf hleaf, topmost_leaf (Bool.and_comm _ _ ▸ hleaf), equalBy_comm heq hy hx]
      split_ifs
      · rfl
      · rfl
  | hobj xs ys ih =>
      rw [topmost_obj, topmost_obj, List.map_flatMap, sortedKeys_comm]
      refine List.flatMap_congr fun key _ => ?_
      cases hxkey : xs.lookup key <;> cases hykey : ys.lookup key
      · rfl
      · rfl
      · rfl
      · rename_i x y
        have hbelow := ih key x y hxkey hykey (named_of_lookup hx.2 hxkey)
          (named_of_lookup hy.2 hykey)
        simp [under, hbelow, List.map_map, Function.comp_def]

/-- Values that differ in one way differ in another, if those that are compared do. -/
lemma Differs.mono {eq' : Atom → Atom → Bool} (h : Differs eq x y path change)
    (hle : ∀ v w, Compared x y v w → v.equalBy eq w = false → v.equalBy eq' w = false) :
    Differs eq' x y path change := by
  induction h with
  | here hleaf hne => exact .here hleaf (hle _ _ (.here hleaf) hne)
  | removed hx hy => exact .removed hx hy
  | added hx hy => exact .added hx hy
  | inside hx hy _ ih =>
      exact .inside hx hy (ih fun v w hcompared => hle v w (.inside hx hy hcompared))

/-- What is said to be changed is not equal. -/
lemma Differs.ne_of_changed {v w : Value} (h : Differs eq x y path (.changed v w)) :
    v.equalBy eq w = false := by
  generalize hchange : Change.changed v w = change at h
  induction h with
  | here _ hne =>
      cases hchange
      exact hne
  | inside _ _ _ ih => exact ih hchange
  | _ => cases hchange

/-- Values that are compared are a topmost difference, unless they are equal. -/
lemma Compared.differs {v w : Value} (h : Compared x y v w) : ∃ path, ∀ eq,
    v.equalBy eq w = false → Differs eq x y path (.changed v w) := by
  induction h with
  | here hleaf => exact ⟨[], fun _ => .here hleaf⟩
  | inside hx hy _ ih =>
      obtain ⟨path, hpath⟩ := ih
      exact ⟨_ :: path, fun eq hne => .inside hx hy (hpath eq hne)⟩

mutual
/-- Equality follows from a finer one. -/
lemma equalBy_mono {eq' : Atom → Atom → Bool} (hle : ∀ a b, eq a b = true → eq' a b = true) :
    ∀ {x y : Value}, x.equalBy eq y = true → x.equalBy eq' y = true
  | .atom _, .atom _, h => hle _ _ h
  | .arr _, .arr _, h => equalItems_mono hle h
  | .obj _, .obj _, h =>
      Bool.and_eq_true _ _ |>.mpr ⟨(Bool.and_eq_true _ _ ▸ h : _ ∧ _).1,
        equalFields_mono hle (Bool.and_eq_true _ _ ▸ h : _ ∧ _).2⟩

lemma equalItems_mono {eq' : Atom → Atom → Bool} (hle : ∀ a b, eq a b = true → eq' a b = true) :
    ∀ {xs ys : List Value}, Value.equalItems eq xs ys = true → Value.equalItems eq' xs ys = true
  | [], [], _ => rfl
  | _ :: _, _ :: _, h =>
      Bool.and_eq_true _ _ |>.mpr ⟨equalBy_mono hle (Bool.and_eq_true _ _ ▸ h : _ ∧ _).1,
        equalItems_mono hle (Bool.and_eq_true _ _ ▸ h : _ ∧ _).2⟩

lemma equalFields_mono {eq' : Atom → Atom → Bool} (hle : ∀ a b, eq a b = true → eq' a b = true) :
    ∀ {xs ys : Fields}, Value.equalFields eq xs ys = true → Value.equalFields eq' xs ys = true
  | [], _, _ => rfl
  | (name, x) :: rest, ys, h => by
      rw [Value.equalFields, Bool.and_eq_true] at h ⊢
      refine ⟨?_, equalFields_mono hle h.2⟩
      cases hy : ys.lookup name with
      | none =>
          rw [hy] at h
          exact h.1
      | some y =>
          rw [hy] at h
          exact equalBy_mono hle h.1
end

end differences

/-! ## Lines -/

/-- The line of a difference, below a path. -/
def render (front : Text) (entry : List Text × Change) : Text :=
  let path := entry.1.foldl pathOf front
  let name := if path = [] then Text.of "(root)" else path
  match entry.1.getLast?, entry.2 with
  | some key, .removed x => Text.of "- " ++ path ++ Text.of " = " ++ short key x
  | some key, .added y => Text.of "+ " ++ path ++ Text.of " = " ++ short key y
  | some key, .changed x y => changedLine key path x y
  | none, .changed x y => changedLine name name x y
  | none, _ => []

lemma render_cons {front key : Text} {path : List Text} {change : Change} (h : path ≠ []) :
    render front (key :: path, change) = render (pathOf front key) (path, change) := by
  obtain ⟨first, rest, rfl⟩ := List.exists_cons_of_ne_nil h
  unfold render
  rw [List.getLast?_cons_cons]
  rfl

section lines

variable [FloatData] {x y : Value} {front : Text}

omit [FloatData] in
/-- A path between objects is not empty. -/
lemma Differs.path_ne_nil {eq : Atom → Atom → Bool} {path : List Text} {change : Change}
    (h : Differs eq x y path change) (hobject : (x.isObject && y.isObject) = true) : path ≠ [] := by
  cases h with
  | here hleaf => rw [hleaf] at hobject; cases hobject
  | _ => exact List.cons_ne_nil _ _

lemma configJsonDiff_leaf (h : (x.isObject && y.isObject) = false) :
    configJsonDiff x y front = (topmost Atom.equal x y).map (render front) := by
  have hcode : configJsonDiff x y front = if x.equal y then [] else
      [changedLine (if front = [] then Text.of "(root)" else front)
        (if front = [] then Text.of "(root)" else front) x y] := by
    cases x with
    | obj xs =>
        cases y with
        | obj ys => cases h
        | _ => rw [configJsonDiff]; simp
    | _ => rw [configJsonDiff]; simp
  rw [hcode, topmost_leaf h, Value.equal]
  split_ifs <;> simp_all [render]

/-- **A diff has one line for each topmost difference.** -/
theorem configJsonDiff_eq (hx : x.Named) (hy : y.Named) :
    configJsonDiff x y front = (topmost Atom.equal x y).map (render front) := by
  induction x, y using value_induction generalizing front with
  | hleaf x y hleaf => exact configJsonDiff_leaf hleaf
  | hobj xs ys ih =>
      rw [topmost_obj, List.map_flatMap, configJsonDiff]
      refine List.flatMap_congr fun key _ => ?_
      split <;> rename_i hxkey hykey <;> rw [hxkey, hykey]
      · simp [under, render]
      · simp [under, render]
      · rename_i x y
        have hnx := named_of_lookup hx.2 hxkey
        have hny := named_of_lookup hy.2 hykey
        have hnil : topmost Atom.equal x y = [] ↔ x.equal y = true := topmost_eq_nil_iff hnx hny
        split_ifs with hequal hobject
        · simp [under, hnil.mpr hequal]
        · rw [ih key x y hxkey hykey hnx hny]
          simp only [under, List.map_map]
          refine List.map_congr_left fun entry hentry => (render_cons ?_).symm
          exact (mem_topmost.mp hentry).path_ne_nil hobject
        · rw [Bool.not_eq_true] at hobject
          have hne : ¬x.equalBy Atom.equal y = true := hequal
          rw [under, topmost_leaf hobject, if_neg hne]
          simp [render]
      · rfl

/-! ## Complete diffs -/

/-- A diff is empty for the same value only, has one line for each topmost difference, and is turned
round by the exchange of its arguments. -/
structure Complete (before after : Value) : Prop where
  empty : configJsonDiff before after [] = [] ↔ before.same after = true
  lines : ∃ entries : List (List Text × Change), (entries.map Prod.fst).Nodup ∧
    (∀ path change, (path, change) ∈ entries ↔ Differs Atom.same before after path change) ∧
    configJsonDiff before after [] = entries.map (render []) ∧
    configJsonDiff after before [] =
      entries.map fun entry => render [] (entry.1, entry.2.swap)

/-- Python takes no two values that are compared for equal, unless they are the same. -/
def Distinguished (before after : Value) : Prop :=
  ∀ x y, Compared before after x y → x.equal y = true → x.same y = true

lemma Atom.equal_of_same (a b : Atom) (h : a.same b = true) : a.equal b = true :=
  (Bool.and_eq_true _ _ ▸ h : _ ∧ _).1

lemma Atom.equal_comm (a b : Atom) : a.equal b = b.equal a := by
  cases a with
  | float s =>
      cases b with
      | float t =>
          have hs : (s.text != "NaN") = true := bne_iff_ne.mpr s.ne_nan
          have ht : (t.text != "NaN") = true := bne_iff_ne.mpr t.ne_nan
          simp only [Atom.equal, equalFloats, hs, ht, Bool.true_and]
          rw [Bool.beq_comm, Bool.or_assoc, Bool.or_assoc, Bool.or_comm (_ && _),
            Bool.and_comm (s.text == "-0.0"), Bool.and_comm (s.text == "0.0")]
      | _ => rfl
  | _ => cases b <;> simp [Atom.equal, Bool.beq_comm]

/-- The same values are equal. -/
lemma equal_of_same (h : x.same y = true) : x.equal y = true :=
  equalBy_mono Atom.equal_of_same h

lemma not_same_of_differs {path : List Text} {change : Change}
    (h : Differs Atom.equal x y path change) : Differs Atom.same x y path change :=
  h.mono fun _ _ _ hne => Bool.eq_false_iff.mpr fun hsame =>
    Bool.eq_false_iff.mp hne (equal_of_same hsame)

lemma differs_iff {path : List Text} {change : Change} (h : Distinguished x y) :
    Differs Atom.equal x y path change ↔ Differs Atom.same x y path change :=
  ⟨not_same_of_differs, fun hsame => hsame.mono fun v w hcompared hne =>
    Bool.eq_false_iff.mpr fun hequal => Bool.eq_false_iff.mp hne (h v w hcompared hequal)⟩

/-- **When diffs are complete.**  Python takes `True` for 1 and `False` for 0. -/
theorem complete_iff (before after : Document) :
    Complete before.value after.value ↔ Distinguished before.value after.value := by
  obtain ⟨x, hx⟩ := before
  obtain ⟨y, hy⟩ := after
  constructor
  · rintro ⟨-, entries, hnodup, hentries, hlines, -⟩ v w hcompared hequal
    by_contra hsame
    obtain ⟨path, hpath⟩ := hcompared.differs
    have hmissed : (path, Change.changed v w) ∈ entries :=
      (hentries _ _).mpr (hpath Atom.same (Bool.eq_false_iff.mpr hsame))
    have hsub : topmost Atom.equal x y ⊆ entries := fun entry hentry =>
      (hentries _ _).mpr (not_same_of_differs (mem_topmost.mp hentry))
    have hlength : (topmost Atom.equal x y).length = entries.length := by
      simpa [configJsonDiff_eq hx hy] using congrArg List.length hlines
    have hperm : (topmost Atom.equal x y).Perm entries :=
      (List.subperm_of_subset nodup_topmost.of_map hsub).perm_of_length_le hlength.ge
    have hne := (mem_topmost.mp (hperm.mem_iff.mpr hmissed)).ne_of_changed
    exact Bool.eq_false_iff.mp hne hequal
  · intro h
    refine ⟨?_, topmost Atom.equal x y, nodup_topmost,
      fun path change => mem_topmost.trans (differs_iff h), configJsonDiff_eq hx hy, ?_⟩
    · have hnil : topmost Atom.equal x y = [] ↔ topmost Atom.same x y = [] := by
        simp only [List.eq_nil_iff_forall_not_mem, Prod.forall, mem_topmost, differs_iff h]
      rw [configJsonDiff_eq hx hy, List.map_eq_nil_iff, hnil, topmost_eq_nil_iff hx hy, Value.same]
    · rw [configJsonDiff_eq hy hx, topmost_swap Atom.equal_comm hx hy, List.map_map]
      rfl

end lines

/-- A config with one switch. -/
def switchSample (a : Atom) : Document :=
  ⟨.obj [(Text.of "a", .atom a)], by simp [Value.Named, Value.NamedFields]⟩

/-- Nothing is shown where `true` becomes 1. -/
theorem true_not_one :
    ¬ @Complete FloatData.zero (switchSample (.bool true)).value (switchSample (.int 1)).value := by
  let _ := FloatData.zero
  intro h
  have hdiff : configJsonDiff (switchSample (.bool true)).value (switchSample (.int 1)).value [] =
      [] := by
    rw [configJsonDiff_eq (switchSample _).named (switchSample _).named, List.map_eq_nil_iff,
      topmost_eq_nil_iff (switchSample _).named (switchSample _).named]
    rfl
  exact absurd (h.empty.mp hdiff) (by decide)

end AgentRuntimeOps.Config
