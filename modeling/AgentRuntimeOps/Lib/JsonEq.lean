import AgentRuntimeOps.Lib.JsonRoundTrip

/-!
# Equality of JSON values

The `==` of the values that `json.loads` returns: `True` is 1, an integer may be equal to a float,
and a `nan` is equal to nothing.
-/

namespace AgentRuntimeOps.Lib

variable [FloatData]

/-- Equality of floats, by the texts that `float.__repr__` writes for them. -/
def equalFloats (s t : String) : Bool :=
  s != "NaN" && (s == t || (s == "0.0" && t == "-0.0") || (s == "-0.0" && t == "0.0"))

/-- Equality of a float and an integer. -/
def equalInt (t : String) (i : Int) : Bool := t != "NaN" && FloatData.eqInt t i

/-- The integer that a boolean is. -/
def ofBool (b : Bool) : Int := if b then 1 else 0

namespace Json

omit [FloatData] in
/-- Among fields with different names, a field is found by its name. -/
lemma lookup_of_nodup {fields : List (String × Json)} (h : (fields.map Prod.fst).Nodup)
    {f : String × Json} (hf : f ∈ fields) : fields.lookup f.1 = some f.2 := by
  induction fields with
  | nil => cases hf
  | cons g rest ih =>
      obtain ⟨name, value⟩ := g
      obtain ⟨hname, hrest⟩ := List.nodup_cons.mp h
      obtain rfl | hf := List.mem_cons.mp hf
      · exact List.lookup_cons_self
      · have hne : (f.1 == name) = false := by
          refine beq_false_of_ne fun heq => hname ?_
          rw [← heq]
          exact List.mem_map.mpr ⟨f, hf, rfl⟩
        rw [List.lookup_cons, hne]
        exact ih hrest hf

omit [FloatData] in
/-- An object is determined by the values under its names. -/
lemma eq_obj_of_keys {value : Json} {names : List String} (hobject : value.isObject = true)
    (hkeys : value.keys = names) (hnodup : names.Nodup) :
    value = obj (names.map fun name => (name, value.field name)) := by
  subst hkeys
  cases value with
  | obj fields =>
      refine congrArg obj (((List.map_map).trans ?_)).symm
      refine (List.map_congr_left fun f hf => ?_).trans (List.map_id fields)
      show (f.1, (fields.lookup f.1).getD null) = f
      rw [lookup_of_nodup hnodup hf]
      rfl
  | _ => cases hobject

end Json

/-! ## Scanned values -/

namespace Scanned

/-- The value of a name; of several the last. -/
def field? (name : List Nat) (fields : List (List Nat × Scanned)) : Option Scanned :=
  (fields.reverse.find? (·.1 == name)).map Prod.snd

/-- The text that is written for a float. -/
def floatOf (token : List Char) : String := String.ofList (floatText token)

mutual
/-- `value == other`, where strings may hold lone surrogates; the order of the fields of an object
is of no account. -/
def equal : Scanned → Scanned → Bool
  | null, null => true
  | bool b, bool c => b == c
  | bool b, int i => ofBool b == i
  | bool b, float t => equalInt (floatOf t) (ofBool b)
  | int i, bool b => i == ofBool b
  | int i, int j => i == j
  | int i, float t => equalInt (floatOf t) i
  | float s, bool b => equalInt (floatOf s) (ofBool b)
  | float s, int i => equalInt (floatOf s) i
  | float s, float t => equalFloats (floatOf s) (floatOf t)
  | str s, str t => s == t
  | arr xs, arr ys => equalItems xs ys
  | obj xs, obj ys => equalFields xs ys && ys.all fun field => xs.any (·.1 == field.1)
  | _, _ => false

/-- Equality of arrays. -/
def equalItems : List Scanned → List Scanned → Bool
  | [], [] => true
  | x :: xs, y :: ys => equal x y && equalItems xs ys
  | _, _ => false

/-- Each field is one of the other object; what a later field replaces does not count. -/
def equalFields : List (List Nat × Scanned) → List (List Nat × Scanned) → Bool
  | [], _ => true
  | (name, x) :: xs, ys =>
      (xs.any (·.1 == name) ||
        match field? name ys with
        | some y => equal x y
        | none => false) && equalFields xs ys
end

end Scanned

end AgentRuntimeOps.Lib
