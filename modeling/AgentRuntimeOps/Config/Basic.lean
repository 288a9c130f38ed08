import AgentRuntimeOps.Lib.JsonEq
import AgentRuntimeOps.Lib.Text

/-!
# Diffs of configs

`domain/config_contract.py`: what an operator sees of a migration.  A config is the value that
`json.loads` returns; the fields of an object stand in the order in which they were read.
-/

namespace AgentRuntimeOps.Config

open AgentRuntimeOps.Lib

/-! ## Values -/

/-- A float that a JSON number is read as, by the text that `float.__repr__` writes. -/
structure Decimal where
  text : String
  ne_nan : text ≠ "NaN"
  deriving DecidableEq

/-- A value that holds no others. -/
inductive Atom where
  | null
  | bool (b : Bool)
  | int (i : Int)
  | float (x : Decimal)
  | str (s : Text)
  deriving DecidableEq

/-- A value. -/
inductive Value where
  | atom (a : Atom)
  | arr (items : List Value)
  | obj (fields : List (Text × Value))

/-- The fields of an object. -/
abbrev Fields : Type := List (Text × Value)

namespace Value

mutual
/-- No object of the value has a name twice. -/
def Named : Value → Prop
  | atom _ => True
  | arr items => NamedItems items
  | obj fields => (fields.map Prod.fst).Nodup ∧ NamedFields fields

/-- The items of an array. -/
def NamedItems : List Value → Prop
  | [] => True
  | item :: rest => item.Named ∧ NamedItems rest

/-- The fields of an object. -/
def NamedFields : Fields → Prop
  | [] => True
  | (_, value) :: rest => value.Named ∧ NamedFields rest
end

/-- The value is an object. -/
def isObject : Value → Bool
  | obj _ => true
  | _ => false

end Value

/-- What `json.loads` returns: its objects are dictionaries. -/
structure Document where
  value : Value
  named : value.Named

/-! ## Equality -/

section equality

variable [FloatData]

/-- `==` on values that hold no others: `True` is 1. -/
def Atom.equal : Atom → Atom → Bool
  | null, null => true
  | bool b, bool c => b == c
  | bool b, int i => ofBool b == i
  | bool b, float x => FloatData.eqInt x.text (ofBool b)
  | int i, bool b => ofBool b == i
  | int i, int j => i == j
  | int i, float x => FloatData.eqInt x.text i
  | float x, bool b => FloatData.eqInt x.text (ofBool b)
  | float x, int i => FloatData.eqInt x.text i
  | float x, float y => equalFloats x.text y.text
  | str s, str t => s == t
  | _, _ => false

/-- The value is a boolean. -/
def Atom.isBool : Atom → Bool
  | bool _ => true
  | _ => false

/-- The same JSON value: a boolean is no number. -/
def Atom.same (a b : Atom) : Bool := a.equal b && a.isBool == b.isBool

end equality

namespace Value

-- How values that hold no others are compared.
variable (eq : Atom → Atom → Bool)

mutual
/-- Lists are equal item by item, and dictionaries name by name. -/
def equalBy : Value → Value → Bool
  | atom a, atom b => eq a b
  | arr xs, arr ys => equalItems xs ys
  | obj xs, obj ys => xs.length == ys.length && equalFields xs ys
  | _, _ => false

/-- Equality of lists. -/
def equalItems : List Value → List Value → Bool
  | [], [] => true
  | x :: xs, y :: ys => equalBy x y && equalItems xs ys
  | _, _ => false

/-- The second dictionary has what is in the first. -/
def equalFields : Fields → Fields → Bool
  | [], _ => true
  | (name, x) :: rest, ys =>
      (match ys.lookup name with
        | some y => equalBy x y
        | none => false) && equalFields rest ys
end

variable [FloatData]

/-- `before == after` -/
def equal : Value → Value → Bool := equalBy Atom.equal

/-- The documents are the same JSON value. -/
def same : Value → Value → Bool := equalBy Atom.same

end Value

/-! ## Texts -/

/-- A character in a string that `json.dumps` writes, with `ensure_ascii=False`. -/
def escapeCode (c : Nat) : Text :=
  if c = 34 then Text.of "\\\""
  else if c = 92 then Text.of "\\\\"
  else if c = 10 then Text.of "\\n"
  else if c = 13 then Text.of "\\r"
  else if c = 9 then Text.of "\\t"
  else if c = 12 then Text.of "\\f"
  else if c = 8 then Text.of "\\b"
  else if c < 32 then Text.ofChars (Json.unicodeEscape c)
  else [c]

/-- A string between its quotes. -/
def quoted (s : Text) : Text := 34 :: s.flatMap escapeCode ++ [34]

/-- `json.dumps` of a value that holds no others. -/
def Atom.dumps : Atom → Text
  | null => Text.of "null"
  | bool true => Text.of "true"
  | bool false => Text.of "false"
  | int i => Text.of (toString i)
  | float x => Text.of x.text
  | str s => quoted s

namespace Value

mutual
/-- `json.dumps(value, ensure_ascii=False)` -/
def dumps : Value → Text
  | atom a => a.dumps
  | arr items => 91 :: dumpsItems items ++ [93]
  | obj fields => 123 :: dumpsFields fields ++ [125]

/-- The items of an array, with `", "` between them. -/
def dumpsItems : List Value → Text
  | [] => []
  | [item] => item.dumps
  | item :: rest => item.dumps ++ [44, 32] ++ dumpsItems rest

/-- The fields of an object. -/
def dumpsFields : Fields → Text
  | [] => []
  | [(name, value)] => quoted name ++ [58, 32] ++ value.dumps
  | (name, value) :: rest =>
      quoted name ++ [58, 32] ++ value.dumps ++ [44, 32] ++ dumpsFields rest
end

end Value

/-- The characters that `re.I` takes for a small letter, besides itself. -/
def variants (c : Nat) : List Nat :=
  (if 97 ≤ c ∧ c ≤ 122 then [c - 32] else []) ++
    (if c = 105 then [0x130, 0x131] else if c = 107 then [0x212a]
      else if c = 115 then [0x17f] else [])

/-- A text starts with a word, in any case. -/
def startsWithWord : Text → Text → Bool
  | [], _ => true
  | _ :: _, [] => false
  | letter :: word, c :: text =>
      decide (c = letter ∨ c ∈ variants letter) && startsWithWord word text

/-- The words of `_SENSITIVE_KEY_RE` -/
def sensitiveWords : List Text :=
  ["pass", "secret", "token", "apikey", "api_key", "credential", "auth", "private"].map Text.of

/-- `_SENSITIVE_KEY_RE.search` -/
def isSensitive (key : Text) : Bool :=
  key.tails.any fun rest => sensitiveWords.any fun word => startsWithWord word rest

/-- The text of a value, if it is not too long. -/
def truncated (text : Text) : Text :=
  if text.length ≤ 70 then text else text.take 67 ++ Text.of "..."

/-- `_short` -/
def short (key : Text) (value : Value) : Text :=
  if isSensitive key then Text.of "<redacted>"
  else
    match value with
    | .atom (.str s) => truncated s
    | value => truncated value.dumps

/-! ## The diff -/

/-- `sorted(set(before) | set(after))` -/
def sortedKeys (xs ys : Fields) : List Text :=
  ((xs.map Prod.fst ++ ys.map Prod.fst).dedup).insertionSort (· ≤ ·)

/-- The path of a key. -/
def pathOf (front key : Text) : Text := if front = [] then key else front ++ 46 :: key

/-- A line for a value that was changed. -/
def changedLine (key path : Text) (x y : Value) : Text :=
  Text.of "~ " ++ path ++ Text.of ": " ++ short key x ++ Text.of " -> " ++ short key y

/-- A value is smaller than the fields that it is in. -/
lemma sizeOf_of_lookup {fields : Fields} {key : Text} {value : Value}
    (h : fields.lookup key = some value) : sizeOf value < sizeOf fields := by
  induction fields with
  | nil => cases h
  | cons field rest ih =>
      obtain ⟨name, first⟩ := field
      rw [List.lookup_cons] at h
      simp only [List.cons.sizeOf_spec, Prod.mk.sizeOf_spec]
      split at h
      · cases h
        omega
      · have hlt := ih h
        omega

variable [FloatData]

/-- `config_json_diff`, with `prefix` as `front`. -/
def configJsonDiff (before after : Value) (front : Text) : List Text :=
  match before, after with
  | .obj xs, .obj ys =>
      (sortedKeys xs ys).flatMap fun key =>
        match _hx : xs.lookup key, ys.lookup key with
        | some x, none => [Text.of "- " ++ pathOf front key ++ Text.of " = " ++ short key x]
        | none, some y => [Text.of "+ " ++ pathOf front key ++ Text.of " = " ++ short key y]
        | some x, some y =>
            if x.equal y then []
            else if x.isObject && y.isObject then configJsonDiff x y (pathOf front key)
            else [changedLine key (pathOf front key) x y]
        | none, none => []
  | x, y =>
      if x.equal y then []
      else
        let name := if front = [] then Text.of "(root)" else front
        [changedLine name name x y]
termination_by sizeOf before
decreasing_by
  have hlt := sizeOf_of_lookup _hx
  simp only [Value.obj.sizeOf_spec]
  omega

end AgentRuntimeOps.Config
