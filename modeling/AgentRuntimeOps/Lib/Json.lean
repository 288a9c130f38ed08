import AgentRuntimeOps.Lib.Bytes

/-!
# JSON values and their compact text

A JSON value, its text as `json.dumps` writes it with `separators=(",", ":")`, and the length of
that text in UTF-8.  An object is a list of fields with pairwise distinct names; it stands for a
dictionary, whose order does not matter, so the fields are listed by sorted name, as
`sort_keys=True` writes them.

Two encoders are modelled: `dumps` writes every character other than `"`, `\` and the control
characters as it is (`ensure_ascii=False`), `dumpsAscii` escapes everything outside printable ASCII
(`ensure_ascii=True`).
-/

namespace AgentRuntimeOps.Lib

/-- A JSON value.  A number is an integer, or a float, which is given by the text that
`float.__repr__` writes for it. -/
inductive Json where
  | null
  | bool (b : Bool)
  | int (i : Int)
  | float (text : String)
  | str (s : String)
  | arr (items : List Json)
  | obj (fields : List (String × Json))

namespace Json

mutual
/-- Equality of values is decidable. -/
def beq : Json → Json → Bool
  | null, null => true
  | bool b, bool c => b == c
  | int i, int j => i == j
  | float s, float t => s == t
  | str s, str t => s == t
  | arr xs, arr ys => beqItems xs ys
  | obj xs, obj ys => beqFields xs ys
  | _, _ => false

/-- Equality of arrays. -/
def beqItems : List Json → List Json → Bool
  | [], [] => true
  | x :: xs, y :: ys => beq x y && beqItems xs ys
  | _, _ => false

/-- Equality of objects. -/
def beqFields : List (String × Json) → List (String × Json) → Bool
  | [], [] => true
  | (m, x) :: xs, (n, y) :: ys => m == n && beq x y && beqFields xs ys
  | _, _ => false
end

mutual
lemma beq_iff : ∀ x y : Json, beq x y = true ↔ x = y
  | null, y => by cases y <;> simp [beq]
  | bool b, y => by cases y <;> simp [beq]
  | int i, y => by cases y <;> simp [beq]
  | float s, y => by cases y <;> simp [beq]
  | str s, y => by cases y <;> simp [beq]
  | arr xs, y => by
      cases y with
      | arr ys => simp [beq, beqItems_iff xs ys]
      | _ => simp [beq]
  | obj xs, y => by
      cases y with
      | obj ys => simp [beq, beqFields_iff xs ys]
      | _ => simp [beq]

lemma beqItems_iff : ∀ xs ys : List Json, beqItems xs ys = true ↔ xs = ys
  | [], ys => by cases ys <;> simp [beqItems]
  | x :: xs, ys => by
      cases ys with
      | nil => simp [beqItems]
      | cons y ys => simp [beqItems, beq_iff x y, beqItems_iff xs ys]

lemma beqFields_iff : ∀ xs ys : List (String × Json), beqFields xs ys = true ↔ xs = ys
  | [], ys => by cases ys <;> simp [beqFields]
  | (m, x) :: xs, ys => by
      cases ys with
      | nil => simp [beqFields]
      | cons y ys =>
          obtain ⟨n, y⟩ := y
          simp [beqFields, beq_iff x y, beqFields_iff xs ys, and_assoc]
end

instance : DecidableEq Json := fun x y => decidable_of_iff (beq x y = true) (beq_iff x y)

/-- `isinstance(value, dict)`. -/
def isObject : Json → Bool
  | obj _ => true
  | _ => false

/-- The field names of an object. -/
def keys : Json → List String
  | obj fields => fields.map Prod.fst
  | _ => []

/-- `value.get(name)`: the field of an object. -/
def get? (name : String) : Json → Option Json
  | obj fields => fields.lookup name
  | _ => none

/-- `value[name]`, for an object that has the field. -/
def field (value : Json) (name : String) : Json := (value.get? name).getD null

/-- The text of a string. -/
def text? : Json → Option String
  | str s => some s
  | _ => none

/-- A string field of an object. -/
def textAt? (name : String) (value : Json) : Option String := (value.get? name).bind text?

/-- A text field of an object that has it. -/
def textField (value : Json) (name : String) : String := (value.textAt? name).getD ""

/-- A text, or `null` for `None`. -/
def ofOption : Option String → Json
  | some s => str s
  | none => null

/-- Four hexadecimal digits after `\u`. -/
def unicodeEscape (n : Nat) : List Char :=
  ['\\', 'u', hexDigit (n / 4096 % 16), hexDigit (n / 256 % 16), hexDigit (n / 16 % 16),
    hexDigit (n % 16)]

/-- The escapes that both encoders use. -/
def escapeShort : Char → Option (List Char)
  | '"' => some ['\\', '"']
  | '\\' => some ['\\', '\\']
  | '\n' => some ['\\', 'n']
  | '\r' => some ['\\', 'r']
  | '\t' => some ['\\', 't']
  | '\x08' => some ['\\', 'b']
  | '\x0c' => some ['\\', 'f']
  | _ => none

/-- One character of a string with `ensure_ascii=False`. -/
def escapeChar (c : Char) : List Char :=
  match escapeShort c with
  | some text => text
  | none => if c.toNat < 0x20 then unicodeEscape c.toNat else [c]

/-- One character of a string with `ensure_ascii=True`: what lies outside the basic plane is
written as a surrogate pair. -/
def escapeCharAscii (c : Char) : List Char :=
  match escapeShort c with
  | some text => text
  | none =>
    if 0x20 ≤ c.toNat ∧ c.toNat ≤ 0x7e then [c]
    else if c.toNat < 0x10000 then unicodeEscape c.toNat
    else unicodeEscape (0xd800 + (c.toNat - 0x10000) / 1024) ++
      unicodeEscape (0xdc00 + (c.toNat - 0x10000) % 1024)

/-- The separators of `json.dumps`. -/
structure Separators where
  item : List Char
  key : List Char

/-- `separators=(",", ":")`. -/
def compact : Separators := ⟨[','], [':']⟩

/-- The default separators. -/
def spaced : Separators := ⟨[',', ' '], [':', ' ']⟩

section dumps

variable (escape : Char → List Char) (sep : Separators)

/-- A string literal. -/
def dumpsString (s : String) : List Char := '"' :: s.toList.flatMap escape ++ ['"']

mutual
/-- The text of a value. -/
def dumpsWith : Json → List Char
  | null => "null".toList
  | bool true => "true".toList
  | bool false => "false".toList
  | int i => (toString i).toList
  | float text => text.toList
  | str s => dumpsString escape s
  | arr items => '[' :: dumpsItems items ++ [']']
  | obj fields => '{' :: dumpsFields fields ++ ['}']

/-- The items of an array, with their separators. -/
def dumpsItems : List Json → List Char
  | [] => []
  | [item] => dumpsWith item
  | item :: rest => dumpsWith item ++ sep.item ++ dumpsItems rest

/-- The fields of an object, with their separators. -/
def dumpsFields : List (String × Json) → List Char
  | [] => []
  | [(name, value)] => dumpsString escape name ++ sep.key ++ dumpsWith value
  | (name, value) :: rest =>
    dumpsString escape name ++ sep.key ++ dumpsWith value ++ sep.item ++ dumpsFields rest
end

end dumps

/-- `json.dumps(value, ensure_ascii=False, separators=(",", ":"))`. -/
def dumps (value : Json) : List Char := dumpsWith escapeChar compact value

/-- `json.dumps(value, ensure_ascii=False)`. -/
def dumpsSpaced (value : Json) : List Char := dumpsWith escapeChar spaced value

/-- `json.dumps(value, separators=(",", ":"))`. -/
def dumpsAscii (value : Json) : List Char := dumpsWith escapeCharAscii compact value

/-- `json.dumps(value)`. -/
def dumpsAsciiSpaced (value : Json) : List Char := dumpsWith escapeCharAscii spaced value

example : dumps (.arr [.int 1, .null, .str "x\"y"]) = "[1,null,\"x\\\"y\"]".toList := by decide

end Json

end AgentRuntimeOps.Lib
