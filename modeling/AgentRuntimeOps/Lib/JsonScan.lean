import AgentRuntimeOps.Lib.Json

/-!
# Reading JSON texts

`json.loads` as its scanner reads a text: strict strings, numbers with backtracking over an
unfinished fraction or exponent, the constants `NaN`, `Infinity` and `-Infinity`, at most 4300
digits in an integer, a limit on the containers that are open at once, and, where the caller asks
for it, no repeated name in an object.

The scanner yields a `Scanned` value, whose strings are lists of code points and may hold a lone
surrogate; `Scanned.toJson?` is the value without one.  It runs on fuel, and `scan` gives it
enough.

The results are that the scanner terminates (`scan_ne_fuel`), what a limit on open containers
changes (`scan_mono`), and that it reads back what `Json.dumps` writes (`scan_dumps`).
-/

namespace AgentRuntimeOps.Lib

/-! ## Values as they are read -/

/-- A value as the scanner builds it: a float is still its token, and the strings are code
points. -/
inductive Scanned where
  | null
  | bool (b : Bool)
  | int (i : Int)
  | float (token : List Char)
  | str (codes : List Nat)
  | arr (items : List Scanned)
  | obj (fields : List (List Nat × Scanned))

/-- Why a text is not read. -/
inductive ScanError where
  /-- `json.JSONDecodeError`. -/
  | malformed
  /-- `ValueError`: an integer has too many digits. -/
  | digits
  /-- The hook finds a name twice. -/
  | duplicate (key : List Nat)
  /-- `RecursionError`: too many containers are open. -/
  | recursion
  /-- The fuel of the model is used up; `scan_ne_fuel` excludes it. -/
  | fuel
  deriving DecidableEq

/-- The default of `sys.get_int_max_str_digits()`. -/
def maxIntDigits : Nat := 4300

namespace Scan

/-! ## Tokens -/

/-- White space between tokens. -/
def isSpace (c : Char) : Bool := c == ' ' || c == '\t' || c == '\n' || c == '\r'

/-- The text after the white space at its start. -/
def skipSpace (text : List Char) : List Char := text.dropWhile isSpace

/-- The value of a hexadecimal digit of either case. -/
def hexValue? (c : Char) : Option Nat :=
  if c.isDigit then some (c.toNat - 48)
  else if 'a' ≤ c ∧ c ≤ 'f' then some (c.toNat - 87)
  else if 'A' ≤ c ∧ c ≤ 'F' then some (c.toNat - 55)
  else none

/-- The code point of four hexadecimal digits. -/
def hexCode? (a b c d : Char) : Option Nat := do
  let a ← hexValue? a
  let b ← hexValue? b
  let c ← hexValue? c
  let d ← hexValue? d
  return a * 4096 + b * 256 + c * 16 + d

/-- The character that a backslash and one further character stand for. -/
def unescape? : Char → Option Char
  | '"' => some '"'
  | '\\' => some '\\'
  | '/' => some '/'
  | 'b' => some '\x08'
  | 'f' => some '\x0c'
  | 'n' => some '\n'
  | 'r' => some '\r'
  | 't' => some '\t'
  | _ => none

/-- One more code point at the start of a string. -/
def push (code : Nat) : Except ScanError (List Nat × List Char) →
    Except ScanError (List Nat × List Char)
  | .ok (codes, rest) => .ok (code :: codes, rest)
  | .error e => .error e

/-- The code points of a string, after its opening quote, and the text after its closing quote. -/
def scanCodes : List Char → Except ScanError (List Nat × List Char)
  | [] => .error .malformed
  | '"' :: rest => .ok ([], rest)
  | '\\' :: 'u' :: a :: b :: c :: d :: rest =>
    match hexCode? a b c d with
    | some code => push code (scanCodes rest)
    | none => .error .malformed
  | '\\' :: c :: rest =>
    match unescape? c with
    | some c => push c.toNat (scanCodes rest)
    | none => .error .malformed
  | c :: rest =>
    if c = '\\' ∨ c.toNat < 0x20 then .error .malformed else push c.toNat (scanCodes rest)

attribute [local simp] scanCodes in
/-- A leading surrogate. -/
def isHigh (code : Nat) : Bool := decide (0xd800 ≤ code ∧ code < 0xdc00)

/-- A trailing surrogate. -/
def isLow (code : Nat) : Bool := decide (0xdc00 ≤ code ∧ code < 0xe000)

/-- A leading and a trailing surrogate are one code point. -/
def joinSurrogates : List Nat → List Nat
  | high :: low :: rest =>
    if isHigh high && isLow low then
      (0x10000 + (high - 0xd800) * 1024 + (low - 0xdc00)) :: joinSurrogates rest
    else high :: joinSurrogates (low :: rest)
  | codes => codes

/-- A string, after its opening quote. -/
def scanString (text : List Char) : Except ScanError (List Nat × List Char) :=
  match scanCodes text with
  | .ok (codes, rest) => .ok (joinSurrogates codes, rest)
  | .error e => .error e

/-- The sign of a number. -/
def scanSign : List Char → List Char × List Char
  | '-' :: rest => (['-'], rest)
  | text => ([], text)

/-- The digits of a number before its point: `0`, or digits that do not start with `0`. -/
def scanDigits : List Char → Option (List Char × List Char)
  | '0' :: rest => some (['0'], rest)
  | c :: rest =>
    if c.isDigit then some (c :: rest.takeWhile Char.isDigit, rest.dropWhile Char.isDigit) else none
  | [] => none

/-- A fraction, where a digit follows the point. -/
def scanFraction : List Char → List Char × List Char
  | '.' :: c :: rest =>
    if c.isDigit then ('.' :: c :: rest.takeWhile Char.isDigit, rest.dropWhile Char.isDigit)
    else ([], '.' :: c :: rest)
  | text => ([], text)

/-- The sign of an exponent. -/
def scanExponentSign : List Char → List Char × List Char
  | '+' :: rest => (['+'], rest)
  | '-' :: rest => (['-'], rest)
  | text => ([], text)

/-- An exponent, where it has a digit. -/
def scanExponent : List Char → List Char × List Char
  | e :: rest =>
    if (e = 'e' ∨ e = 'E') ∧ (scanExponentSign rest).2.takeWhile Char.isDigit ≠ [] then
      (e :: (scanExponentSign rest).1 ++ (scanExponentSign rest).2.takeWhile Char.isDigit,
        (scanExponentSign rest).2.dropWhile Char.isDigit)
    else ([], e :: rest)
  | [] => ([], [])

/-- The integer of a sign and digits. -/
def signedValue (sign digits : List Char) : Int :=
  if sign = [] then Nat.ofDigitChars 10 digits 0 else -(Nat.ofDigitChars 10 digits 0 : Int)

/-- A number. -/
def scanNumber (text : List Char) : Except ScanError (Scanned × List Char) :=
  match scanDigits (scanSign text).2 with
  | none => .error .malformed
  | some (digits, rest) =>
    let fraction := scanFraction rest
    let exponent := scanExponent fraction.2
    if fraction.1 = [] ∧ exponent.1 = [] then
      if digits.length ≤ maxIntDigits then
        .ok (.int (signedValue (scanSign text).1 digits), exponent.2)
      else .error .digits
    else .ok (.float ((scanSign text).1 ++ digits ++ fraction.1 ++ exponent.1), exponent.2)

/-- What a text starts with when it is no string and no container: a constant or a number. -/
def scanAtom (text : List Char) : Except ScanError (Scanned × List Char) :=
  match text with
  | 'n' :: 'u' :: 'l' :: 'l' :: rest => .ok (.null, rest)
  | 't' :: 'r' :: 'u' :: 'e' :: rest => .ok (.bool true, rest)
  | 'f' :: 'a' :: 'l' :: 's' :: 'e' :: rest => .ok (.bool false, rest)
  | 'N' :: 'a' :: 'N' :: rest => .ok (.float "NaN".toList, rest)
  | 'I' :: 'n' :: 'f' :: 'i' :: 'n' :: 'i' :: 't' :: 'y' :: rest =>
    .ok (.float "Infinity".toList, rest)
  | '-' :: 'I' :: 'n' :: 'f' :: 'i' :: 'n' :: 'i' :: 't' :: 'y' :: rest =>
    .ok (.float "-Infinity".toList, rest)
  | text => scanNumber text

/-- A name of an object, its colon, and the white space around the colon. -/
def scanName : List Char → Except ScanError (List Nat × List Char)
  | '"' :: rest =>
    match scanString rest with
    | .error e => .error e
    | .ok (key, rest) =>
      match skipSpace rest with
      | ':' :: rest => .ok (key, skipSpace rest)
      | _ => .error .malformed
  | _ => .error .malformed

/-! ## Values -/

/-- The first name that occurs a second time, as `object_pairs_hook` meets it. -/
def repeatedName (seen : List (List Nat)) : List (List Nat × Scanned) → Option (List Nat)
  | [] => none
  | (key, _) :: rest => if key ∈ seen then some key else repeatedName (key :: seen) rest

section value

-- Whether the caller gives the hook that rejects repeated names.
variable (unique : Bool)

/-- The object of some pairs. -/
def makeObject (fields : List (List Nat × Scanned)) (rest : List Char) :
    Except ScanError (Scanned × List Char) :=
  match if unique then repeatedName [] fields else none with
  | some key => .error (.duplicate key)
  | none => .ok (.obj fields, rest)

mutual
/-- A value, where at most `limit` containers may be open. -/
def scanOnce : Nat → Nat → List Char → Except ScanError (Scanned × List Char)
  | 0, _, _ => .error .fuel
  | fuel + 1, limit, text =>
    match text with
    | '"' :: rest =>
      match scanString rest with
      | .ok (codes, rest) => .ok (.str codes, rest)
      | .error e => .error e
    | '[' :: rest =>
      match limit with
      | 0 => .error .recursion
      | limit + 1 =>
        match skipSpace rest with
        | ']' :: rest => .ok (.arr [], rest)
        | body =>
          match scanItems fuel limit body with
          | .ok (items, rest) => .ok (.arr items, rest)
          | .error e => .error e
    | '{' :: rest =>
      match limit with
      | 0 => .error .recursion
      | limit + 1 =>
        match skipSpace rest with
        | '}' :: rest => makeObject unique [] rest
        | body =>
          match scanFields fuel limit body with
          | .ok (fields, rest) => makeObject unique fields rest
          | .error e => .error e
    | text => scanAtom text

/-- The items of an array up to its closing bracket. -/
def scanItems : Nat → Nat → List Char → Except ScanError (List Scanned × List Char)
  | 0, _, _ => .error .fuel
  | fuel + 1, limit, text =>
    match scanOnce fuel limit text with
    | .error e => .error e
    | .ok (item, rest) =>
      match skipSpace rest with
      | ']' :: rest => .ok ([item], rest)
      | ',' :: rest =>
        match scanItems fuel limit (skipSpace rest) with
        | .ok (items, rest) => .ok (item :: items, rest)
        | .error e => .error e
      | _ => .error .malformed

/-- The fields of an object up to its closing brace. -/
def scanFields : Nat → Nat → List Char → Except ScanError (List (List Nat × Scanned) × List Char)
  | 0, _, _ => .error .fuel
  | fuel + 1, limit, text =>
    match scanName text with
    | .error e => .error e
    | .ok (key, rest) =>
      match scanOnce fuel limit rest with
      | .error e => .error e
      | .ok (value, rest) =>
        match skipSpace rest with
        | '}' :: rest => .ok ([(key, value)], rest)
        | ',' :: rest =>
          match scanFields fuel limit (skipSpace rest) with
          | .ok (fields, rest) => .ok ((key, value) :: fields, rest)
          | .error e => .error e
        | _ => .error .malformed
end

end value

/-! ## Lengths -/

attribute [local simp] scanOnce scanItems scanFields in
lemma length_skipSpace_le (text : List Char) : (skipSpace text).length ≤ text.length :=
  (List.dropWhile_suffix _).length_le

lemma push_ok {code : Nat} {x : Except ScanError (List Nat × List Char)} {codes : List Nat}
    {rest : List Char} (h : push code x = .ok (codes, rest)) :
    ∃ codes', x = .ok (codes', rest) ∧ codes = code :: codes' := by
  unfold push at h
  split at h
  · next codes' rest' =>
    cases h
    exact ⟨codes', rfl, rfl⟩
  · cases h

/-- A string leaves a shorter text. -/
lemma length_scanCodes {text rest : List Char} {codes : List Nat}
    (h : scanCodes text = .ok (codes, rest)) : rest.length < text.length := by
  fun_induction scanCodes text generalizing codes with
  | case1 => cases h
  | case2 rest' =>
      cases h
      simp
  | case3 a b c d rest' code hcode ih =>
      obtain ⟨codes', hrest, -⟩ := push_ok h
      have hlt := ih hrest
      simp only [List.length_cons]
      omega
  | case4 => cases h
  | case5 c rest' hu c' hc' ih =>
      obtain ⟨codes', hrest, -⟩ := push_ok h
      have hlt := ih hrest
      simp only [List.length_cons]
      omega
  | case6 => cases h
  | case7 => cases h
  | case8 c rest' _ _ _ hc ih =>
      obtain ⟨codes', hrest, -⟩ := push_ok h
      have hlt := ih hrest
      simp only [List.length_cons]
      omega

lemma length_scanString {text rest : List Char} {codes : List Nat}
    (h : scanString text = .ok (codes, rest)) : rest.length < text.length := by
  unfold scanString at h
  split at h
  · next codes' rest' hcodes =>
    cases h
    exact length_scanCodes hcodes
  · cases h

lemma length_scanName {text rest : List Char} {key : List Nat}
    (h : scanName text = .ok (key, rest)) : rest.length < text.length := by
  unfold scanName at h
  split at h
  · next body =>
    split at h
    · cases h
    · next key' rest' hstring =>
      have hlt := length_scanString hstring
      have hskip := length_skipSpace_le rest'
      split at h
      · next rest'' hcolon =>
        cases h
        have hskip' := length_skipSpace_le rest''
        rw [hcolon, List.length_cons] at hskip
        rw [List.length_cons]
        omega
      · cases h
  · cases h

/-! ## Numbers -/

/-- No digit stands at the start of a text. -/
def NoDigit (text : List Char) : Prop := ∀ c ∈ text.head?, c.isDigit = false

/-- Nothing at the start of a text continues a number. -/
def Delimited (text : List Char) : Prop :=
  ∀ c ∈ text.head?, c.isDigit = false ∧ c ≠ '.' ∧ c ≠ 'e' ∧ c ≠ 'E'

/-- The digits of an integer. -/
def IsInteger (digits : List Char) : Prop :=
  digits = ['0'] ∨ ∃ c ds, digits = c :: ds ∧ c ≠ '0' ∧ c.isDigit = true ∧ ds.all Char.isDigit = true

/-- A fraction, or none. -/
def IsFraction (fraction : List Char) : Prop :=
  fraction = [] ∨
    ∃ c ds, fraction = '.' :: c :: ds ∧ c.isDigit = true ∧ ds.all Char.isDigit = true

/-- An exponent, or none. -/
def IsExponent (exponent : List Char) : Prop :=
  exponent = [] ∨ ∃ e sign c ds, exponent = e :: (sign ++ c :: ds) ∧ (e = 'e' ∨ e = 'E') ∧
    (sign = [] ∨ sign = ['+'] ∨ sign = ['-']) ∧ c.isDigit = true ∧ ds.all Char.isDigit = true

lemma span_digits {ds tail : List Char} (hds : ds.all Char.isDigit = true) (htail : NoDigit tail) :
    (ds ++ tail).takeWhile Char.isDigit = ds ∧ (ds ++ tail).dropWhile Char.isDigit = tail := by
  rw [List.all_eq_true] at hds
  rw [List.takeWhile_append_of_pos hds, List.dropWhile_append_of_pos hds]
  cases tail with
  | nil => simp
  | cons c tail =>
      have hc : c.isDigit = false := htail c rfl
      simp [hc]

lemma noDigit_append {front tail : List Char} (hfront : NoDigit front) (htail : NoDigit tail) :
    NoDigit (front ++ tail) := by
  cases front with
  | nil => exact htail
  | cons c front => exact hfront

lemma scanDigits_append {digits tail : List Char} (h : IsInteger digits) (htail : NoDigit tail) :
    scanDigits (digits ++ tail) = some (digits, tail) := by
  rcases h with rfl | ⟨c, ds, rfl, hzero, hc, hds⟩
  · rfl
  · obtain ⟨htake, hdrop⟩ := span_digits hds htail
    rw [List.cons_append, scanDigits]
    · rw [if_pos hc, htake, hdrop]
    · exact fun h => hzero h

lemma scanFraction_append {fraction tail : List Char} (h : IsFraction fraction)
    (htail : NoDigit tail) (hpoint : ∀ c ∈ tail.head?, c ≠ '.') :
    scanFraction (fraction ++ tail) = (fraction, tail) := by
  rcases h with rfl | ⟨c, ds, rfl, hc, hds⟩
  · rw [List.nil_append]
    unfold scanFraction
    split
    · next c rest => exact absurd rfl (hpoint '.' rfl)
    · rfl
  · obtain ⟨htake, hdrop⟩ := span_digits hds htail
    change scanFraction ('.' :: c :: (ds ++ tail)) = _
    rw [scanFraction, if_pos hc, htake, hdrop]

lemma scanExponentSign_append {sign digits : List Char}
    (h : sign = [] ∨ sign = ['+'] ∨ sign = ['-']) (hd : ∃ c ds, digits = c :: ds ∧ c.isDigit = true) :
    scanExponentSign (sign ++ digits) = (sign, digits) := by
  obtain ⟨c, ds, rfl, hc⟩ := hd
  rcases h with rfl | rfl | rfl
  · rw [List.nil_append]
    unfold scanExponentSign
    split
    · next heq =>
      cases heq
      exact absurd hc (by decide)
    · next heq =>
      cases heq
      exact absurd hc (by decide)
    · rfl
  · rfl
  · rfl

lemma scanExponent_append {exponent tail : List Char} (h : IsExponent exponent)
    (htail : Delimited tail) : scanExponent (exponent ++ tail) = (exponent, tail) := by
  rcases h with rfl | ⟨e, sign, c, ds, rfl, he, hsign, hc, hds⟩
  · rw [List.nil_append]
    cases tail with
    | nil => rfl
    | cons c tail =>
        obtain ⟨-, -, he, hE⟩ := htail c rfl
        rw [scanExponent, if_neg]
        rintro ⟨hc, -⟩
        rcases hc with hc | hc
        · exact he hc
        · exact hE hc
  · have hno : NoDigit tail := fun c hc => (htail c hc).1
    have hall : (c :: ds).all Char.isDigit = true := by
      rw [List.all_cons, hc, hds]
      rfl
    obtain ⟨htake, hdrop⟩ := span_digits hall hno
    have hs : scanExponentSign (sign ++ (c :: ds ++ tail)) = (sign, c :: ds ++ tail) :=
      scanExponentSign_append hsign ⟨c, ds ++ tail, rfl, hc⟩
    rw [List.cons_append, List.append_assoc, scanExponent, hs, htake, hdrop]
    rw [if_pos ⟨he, List.cons_ne_nil _ _⟩]
    rfl

lemma noDigit_fraction {fraction : List Char} (h : IsFraction fraction) : NoDigit fraction := by
  rcases h with rfl | ⟨c, ds, rfl, -, -⟩
  · intro c hc
    cases hc
  · intro c hc
    cases hc
    decide

lemma noDigit_exponent {exponent : List Char} (h : IsExponent exponent) : NoDigit exponent := by
  rcases h with rfl | ⟨e, sign, c, ds, rfl, he, -, -, -⟩
  · intro c hc
    cases hc
  · intro c hc
    cases hc
    rcases he with rfl | rfl
    · decide
    · decide

lemma noDigit_of_delimited {text : List Char} (h : Delimited text) : NoDigit text :=
  fun c hc => (h c hc).1

lemma scanSign_append {sign digits tail : List Char} (h : sign = [] ∨ sign = ['-'])
    (hd : IsInteger digits) : scanSign (sign ++ (digits ++ tail)) = (sign, digits ++ tail) := by
  rcases h with rfl | rfl
  · rw [List.nil_append]
    rcases hd with rfl | ⟨c, ds, rfl, -, hc, -⟩
    · rfl
    · rw [List.cons_append]
      unfold scanSign
      split
      · next heq =>
        cases heq
        exact absurd hc (by decide)
      · rfl
  · rfl

/-- The number that some parts spell, in front of a text that does not continue it. -/
lemma scanNumber_append {sign digits fraction exponent rest : List Char}
    (hsign : sign = [] ∨ sign = ['-']) (hdigits : IsInteger digits) (hfraction : IsFraction fraction)
    (hexponent : IsExponent exponent) (hrest : Delimited rest) :
    scanNumber (sign ++ (digits ++ (fraction ++ (exponent ++ rest)))) =
      if fraction = [] ∧ exponent = [] then
        if digits.length ≤ maxIntDigits then .ok (.int (signedValue sign digits), rest)
        else .error .digits
      else .ok (.float (sign ++ digits ++ fraction ++ exponent), rest) := by
  have hno : NoDigit (exponent ++ rest) :=
    noDigit_append (noDigit_exponent hexponent) (noDigit_of_delimited hrest)
  have hpoint : ∀ c ∈ (exponent ++ rest).head?, c ≠ '.' := by
    rcases hexponent with rfl | ⟨e, s, c, ds, rfl, he, -, -, -⟩
    · exact fun c hc => (hrest c hc).2.1
    · intro c' hc'
      cases hc'
      rcases he with rfl | rfl
      · decide
      · decide
  have h₁ := @scanSign_append sign digits (fraction ++ (exponent ++ rest)) hsign hdigits
  have h₂ := scanDigits_append hdigits (noDigit_append (noDigit_fraction hfraction) hno)
  have h₃ := scanFraction_append hfraction hno hpoint
  have h₄ := scanExponent_append hexponent hrest
  unfold scanNumber
  simp only [h₁, h₂, h₃, h₄]

lemma scanSign_parts (text : List Char) :
    ((scanSign text).1 = [] ∨ (scanSign text).1 = ['-']) ∧
      text = (scanSign text).1 ++ (scanSign text).2 := by
  unfold scanSign
  split
  · exact ⟨.inr rfl, rfl⟩
  · exact ⟨.inl rfl, rfl⟩

lemma all_takeWhile_isDigit (text : List Char) :
    (text.takeWhile Char.isDigit).all Char.isDigit = true := List.all_takeWhile

lemma scanDigits_parts {text digits rest : List Char} (h : scanDigits text = some (digits, rest)) :
    IsInteger digits ∧ text = digits ++ rest := by
  unfold scanDigits at h
  split at h
  · cases h
    exact ⟨.inl rfl, rfl⟩
  · next c tail hzero =>
    split_ifs at h with hc
    cases h
    refine ⟨.inr ⟨c, _, rfl, ?_, hc, all_takeWhile_isDigit tail⟩, ?_⟩
    · exact fun h => hzero h
    · rw [List.cons_append, List.takeWhile_append_dropWhile]
  · cases h

lemma scanFraction_parts (text : List Char) :
    IsFraction (scanFraction text).1 ∧ text = (scanFraction text).1 ++ (scanFraction text).2 := by
  unfold scanFraction
  split
  · next c rest =>
    split_ifs with hc
    · refine ⟨.inr ⟨c, _, rfl, hc, all_takeWhile_isDigit rest⟩, ?_⟩
      simp only [List.cons_append, List.takeWhile_append_dropWhile]
    · exact ⟨.inl rfl, rfl⟩
  · exact ⟨.inl rfl, rfl⟩

lemma scanExponentSign_parts (text : List Char) :
    ((scanExponentSign text).1 = [] ∨ (scanExponentSign text).1 = ['+'] ∨
      (scanExponentSign text).1 = ['-']) ∧
      text = (scanExponentSign text).1 ++ (scanExponentSign text).2 := by
  unfold scanExponentSign
  split
  · exact ⟨.inr (.inl rfl), rfl⟩
  · exact ⟨.inr (.inr rfl), rfl⟩
  · exact ⟨.inl rfl, rfl⟩

lemma scanExponent_parts (text : List Char) :
    IsExponent (scanExponent text).1 ∧ text = (scanExponent text).1 ++ (scanExponent text).2 := by
  unfold scanExponent
  split
  · next e rest =>
    obtain ⟨hsign, hrest⟩ := scanExponentSign_parts rest
    split_ifs with he
    · obtain ⟨he, hne⟩ := he
      have hall := all_takeWhile_isDigit (scanExponentSign rest).2
      obtain ⟨c, ds, hds⟩ := List.exists_cons_of_ne_nil hne
      rw [hds, List.all_cons, Bool.and_eq_true] at hall
      refine ⟨.inr ⟨e, _, c, ds, ?_, he, hsign, hall⟩, ?_⟩
      · rw [hds, List.cons_append]
      · rw [List.cons_append, List.cons_append, List.append_assoc,
          List.takeWhile_append_dropWhile, ← hrest]
    · exact ⟨.inl rfl, rfl⟩
  · exact ⟨.inl rfl, rfl⟩

/-- What a number that is read consists of. -/
lemma scanNumber_parts {text rest : List Char} {value : Scanned}
    (h : scanNumber text = .ok (value, rest)) :
    ∃ sign digits fraction exponent, (sign = [] ∨ sign = ['-']) ∧ IsInteger digits ∧
      IsFraction fraction ∧ IsExponent exponent ∧
      text = sign ++ (digits ++ (fraction ++ (exponent ++ rest))) ∧
      ((fraction = [] ∧ exponent = [] ∧ digits.length ≤ maxIntDigits ∧
          value = .int (signedValue sign digits)) ∨
        (¬(fraction = [] ∧ exponent = []) ∧
          value = .float (sign ++ digits ++ fraction ++ exponent))) := by
  obtain ⟨hsign, htext⟩ := scanSign_parts text
  unfold scanNumber at h
  split at h
  · cases h
  · next digits tail hdigits =>
    obtain ⟨hinteger, htail⟩ := scanDigits_parts hdigits
    obtain ⟨hfraction, hf⟩ := scanFraction_parts tail
    obtain ⟨hexponent, he⟩ := scanExponent_parts (scanFraction tail).2
    refine ⟨(scanSign text).1, digits, (scanFraction tail).1,
      (scanExponent (scanFraction tail).2).1, hsign, hinteger, hfraction, hexponent, ?_⟩
    have hall : text = (scanSign text).1 ++ (digits ++ ((scanFraction tail).1 ++
        ((scanExponent (scanFraction tail).2).1 ++ (scanExponent (scanFraction tail).2).2))) := by
      rw [← he, ← hf, ← htail, ← htext]
    by_cases hint : (scanFraction tail).1 = [] ∧ (scanExponent (scanFraction tail).2).1 = []
    · rw [if_pos hint] at h
      split_ifs at h with hlen
      cases h
      exact ⟨hall, .inl ⟨hint.1, hint.2, hlen, rfl⟩⟩
    · rw [if_neg hint] at h
      cases h
      exact ⟨hall, .inr ⟨hint, rfl⟩⟩

lemma length_scanNumber {text rest : List Char} {value : Scanned}
    (h : scanNumber text = .ok (value, rest)) : rest.length < text.length := by
  obtain ⟨sign, digits, fraction, exponent, -, hdigits, -, -, htext, -⟩ := scanNumber_parts h
  have hpos : 0 < digits.length := by
    rcases hdigits with rfl | ⟨c, ds, rfl, -, -, -⟩
    · simp
    · simp
  rw [htext]
  simp only [List.length_append]
  omega

lemma length_scanAtom {text rest : List Char} {value : Scanned}
    (h : scanAtom text = .ok (value, rest)) : rest.length < text.length := by
  unfold scanAtom at h
  split at h
  all_goals first
    | exact length_scanNumber h
    | (cases h; simp only [List.length_cons]; omega)

/-! ## What one call does -/

section steps

variable {unique : Bool} {fuel limit : Nat} {text rest : List Char} {e : ScanError}

lemma local_scanCodes (h : scanCodes text = .error e) : e = .malformed := by
  have hpush : ∀ {code : Nat} {x : Except ScanError (List Nat × List Char)},
      push code x = .error e → x = .error e := by
    intro code x hx
    unfold push at hx
    split at hx
    · cases hx
    · exact hx
  fun_induction scanCodes text with
  | case1 => exact (Except.error.inj h).symm
  | case2 => cases h
  | case3 a b c d rest' code hcode ih => exact ih (hpush h)
  | case4 => exact (Except.error.inj h).symm
  | case5 c rest' hu c' hc' ih => exact ih (hpush h)
  | case6 => exact (Except.error.inj h).symm
  | case7 => exact (Except.error.inj h).symm
  | case8 c rest' _ _ _ hc ih => exact ih (hpush h)

lemma local_scanString (h : scanString text = .error e) : e = .malformed := by
  unfold scanString at h
  split at h
  · cases h
  · next hcodes =>
    cases h
    exact local_scanCodes hcodes

lemma local_scanName (h : scanName text = .error e) : e = .malformed := by
  unfold scanName at h
  split at h
  · split at h
    · next hstring =>
      cases h
      exact local_scanString hstring
    · split at h
      · cases h
      · exact (Except.error.inj h).symm
  · exact (Except.error.inj h).symm

lemma local_scanNumber (h : scanNumber text = .error e) : e = .malformed ∨ e = .digits := by
  unfold scanNumber at h
  split at h
  · exact .inl (Except.error.inj h).symm
  · next digits tail _ =>
    by_cases hint : (scanFraction tail).1 = [] ∧ (scanExponent (scanFraction tail).2).1 = []
    · rw [if_pos hint] at h
      split_ifs at h
      exact .inr (Except.error.inj h).symm
    · rw [if_neg hint] at h
      cases h

lemma local_scanAtom (h : scanAtom text = .error e) : e = .malformed ∨ e = .digits := by
  unfold scanAtom at h
  split at h
  all_goals first
    | exact local_scanNumber h
    | cases h

lemma makeObject_ok {fields : List (List Nat × Scanned)} {value : Scanned} {rest' : List Char}
    (h : makeObject unique fields rest = .ok (value, rest')) :
    value = .obj fields ∧ rest' = rest ∧ (unique = true → repeatedName [] fields = none) := by
  unfold makeObject at h
  split at h
  · cases h
  · next hnone =>
    cases h
    refine ⟨rfl, rfl, ?_⟩
    rintro rfl
    simpa using hnone

lemma local_makeObject {fields : List (List Nat × Scanned)}
    (h : makeObject unique fields rest = .error e) : ∃ key, e = .duplicate key := by
  unfold makeObject at h
  split at h
  · next key _ => exact ⟨key, (Except.error.inj h).symm⟩
  · cases h

/-- How a value is read. -/
lemma scanOnce_ok {value : Scanned} (h : scanOnce unique (fuel + 1) limit text = .ok (value, rest)) :
    (∃ body codes, text = '"' :: body ∧ scanString body = .ok (codes, rest) ∧ value = .str codes) ∨
    (∃ body, text = '[' :: body ∧ 0 < limit ∧ skipSpace body = ']' :: rest ∧ value = .arr []) ∨
    (∃ body l items, text = '[' :: body ∧ limit = l + 1 ∧
      scanItems unique fuel l (skipSpace body) = .ok (items, rest) ∧ value = .arr items) ∨
    (∃ body, text = '{' :: body ∧ 0 < limit ∧ skipSpace body = '}' :: rest ∧ value = .obj []) ∨
    (∃ body l fields, text = '{' :: body ∧ limit = l + 1 ∧
      scanFields unique fuel l (skipSpace body) = .ok (fields, rest) ∧ value = .obj fields ∧
      (unique = true → repeatedName [] fields = none)) ∨
    scanAtom text = .ok (value, rest) := by
  unfold scanOnce at h
  split at h
  · next body =>
    split at h
    · next codes rest' hstring =>
      cases h
      exact .inl ⟨body, codes, rfl, hstring, rfl⟩
    · cases h
  · next body =>
    split at h
    · cases h
    · next l =>
      split at h
      · next hclose =>
        cases h
        exact .inr (.inl ⟨body, rfl, Nat.succ_pos l, hclose, rfl⟩)
      · split at h
        · next items rest' hitems =>
          cases h
          exact .inr (.inr (.inl ⟨body, l, items, rfl, rfl, hitems, rfl⟩))
        · cases h
  · next body =>
    split at h
    · cases h
    · next l =>
      split at h
      · next hclose =>
        obtain ⟨rfl, rfl, -⟩ := makeObject_ok h
        exact .inr (.inr (.inr (.inl ⟨body, rfl, Nat.succ_pos l, hclose, rfl⟩)))
      · split at h
        · next fields rest' hfields =>
          obtain ⟨rfl, rfl, hunique⟩ := makeObject_ok h
          exact .inr (.inr (.inr (.inr (.inl
            ⟨body, l, fields, rfl, rfl, hfields, rfl, hunique⟩))))
        · cases h
  · exact .inr (.inr (.inr (.inr (.inr h))))

/-- Where the error of a value comes from. -/
lemma scanOnce_error (h : scanOnce unique (fuel + 1) limit text = .error e) :
    (e ≠ .recursion ∧ e ≠ .fuel) ∨ (limit = 0 ∧ e = .recursion) ∨
    (∃ body l, text = '[' :: body ∧ limit = l + 1 ∧
      scanItems unique fuel l (skipSpace body) = .error e) ∨
    (∃ body l, text = '{' :: body ∧ limit = l + 1 ∧
      scanFields unique fuel l (skipSpace body) = .error e) := by
  unfold scanOnce at h
  split at h
  · split at h
    · cases h
    · next hstring =>
      cases h
      rw [local_scanString hstring]
      exact .inl ⟨nofun, nofun⟩
  · next body =>
    split at h
    · exact .inr (.inl ⟨rfl, (Except.error.inj h).symm⟩)
    · next l =>
      split at h
      · cases h
      · split at h
        · cases h
        · next hitems =>
          cases h
          exact .inr (.inr (.inl ⟨body, l, rfl, rfl, hitems⟩))
  · next body =>
    split at h
    · exact .inr (.inl ⟨rfl, (Except.error.inj h).symm⟩)
    · next l =>
      split at h
      · obtain ⟨key, rfl⟩ := local_makeObject h
        exact .inl ⟨nofun, nofun⟩
      · split at h
        · obtain ⟨key, rfl⟩ := local_makeObject h
          exact .inl ⟨nofun, nofun⟩
        · next hfields =>
          cases h
          exact .inr (.inr (.inr ⟨body, l, rfl, rfl, hfields⟩))
  · rcases local_scanAtom h with rfl | rfl
    · exact .inl ⟨nofun, nofun⟩
    · exact .inl ⟨nofun, nofun⟩

/-- How the items of an array are read. -/
lemma scanItems_ok {items : List Scanned}
    (h : scanItems unique (fuel + 1) limit text = .ok (items, rest)) :
    ∃ item tail, scanOnce unique fuel limit text = .ok (item, tail) ∧
      ((skipSpace tail = ']' :: rest ∧ items = [item]) ∨
        ∃ tail' items', skipSpace tail = ',' :: tail' ∧
          scanItems unique fuel limit (skipSpace tail') = .ok (items', rest) ∧
          items = item :: items') := by
  unfold scanItems at h
  split at h
  · cases h
  · next item tail hitem =>
    refine ⟨item, tail, hitem, ?_⟩
    split at h
    · next hclose =>
      cases h
      exact .inl ⟨hclose, rfl⟩
    · next tail' hcomma =>
      split at h
      · next items' rest' hitems =>
        cases h
        exact .inr ⟨tail', items', hcomma, hitems, rfl⟩
      · cases h
    · cases h

/-- Where the error of the items comes from. -/
lemma scanItems_error (h : scanItems unique (fuel + 1) limit text = .error e) :
    e = .malformed ∨ scanOnce unique fuel limit text = .error e ∨
      ∃ item tail tail', scanOnce unique fuel limit text = .ok (item, tail) ∧
        skipSpace tail = ',' :: tail' ∧
        scanItems unique fuel limit (skipSpace tail') = .error e := by
  unfold scanItems at h
  split at h
  · next hitem =>
    cases h
    exact .inr (.inl hitem)
  · next item tail hitem =>
    split at h
    · cases h
    · next tail' hcomma =>
      split at h
      · cases h
      · next hitems =>
        cases h
        exact .inr (.inr ⟨item, tail, tail', hitem, hcomma, hitems⟩)
    · exact .inl (Except.error.inj h).symm

/-- How the fields of an object are read. -/
lemma scanFields_ok {fields : List (List Nat × Scanned)}
    (h : scanFields unique (fuel + 1) limit text = .ok (fields, rest)) :
    ∃ key body value tail, scanName text = .ok (key, body) ∧
      scanOnce unique fuel limit body = .ok (value, tail) ∧
      ((skipSpace tail = '}' :: rest ∧ fields = [(key, value)]) ∨
        ∃ tail' fields', skipSpace tail = ',' :: tail' ∧
          scanFields unique fuel limit (skipSpace tail') = .ok (fields', rest) ∧
          fields = (key, value) :: fields') := by
  unfold scanFields at h
  split at h
  · cases h
  · next key body hname =>
    split at h
    · cases h
    · next value tail hvalue =>
      refine ⟨key, body, value, tail, hname, hvalue, ?_⟩
      split at h
      · next hclose =>
        cases h
        exact .inl ⟨hclose, rfl⟩
      · next tail' hcomma =>
        split at h
        · next fields' rest' hfields =>
          cases h
          exact .inr ⟨tail', fields', hcomma, hfields, rfl⟩
        · cases h
      · cases h

/-- Where the error of the fields comes from. -/
lemma scanFields_error (h : scanFields unique (fuel + 1) limit text = .error e) :
    e = .malformed ∨
      ∃ key body, scanName text = .ok (key, body) ∧
        (scanOnce unique fuel limit body = .error e ∨
          ∃ value tail tail', scanOnce unique fuel limit body = .ok (value, tail) ∧
            skipSpace tail = ',' :: tail' ∧
            scanFields unique fuel limit (skipSpace tail') = .error e) := by
  unfold scanFields at h
  split at h
  · next hname =>
    cases h
    exact .inl (local_scanName hname)
  · next key body hname =>
    split at h
    · next hvalue =>
      cases h
      exact .inr ⟨key, body, hname, .inl hvalue⟩
    · next value tail hvalue =>
      split at h
      · cases h
      · next tail' hcomma =>
        split at h
        · cases h
        · next hfields =>
          cases h
          exact .inr ⟨key, body, hname, .inr ⟨value, tail, tail', hvalue, hcomma, hfields⟩⟩
      · exact .inl (Except.error.inj h).symm

end steps

/-! ## Fuel and open containers -/

section runs

variable {unique : Bool}

/-- Every call leaves a shorter text. -/
lemma length_scan (fuel : Nat) : ∀ limit text rest,
    (∀ value, scanOnce unique fuel limit text = .ok (value, rest) → rest.length < text.length) ∧
    (∀ items, scanItems unique fuel limit text = .ok (items, rest) → rest.length < text.length) ∧
    (∀ fields, scanFields unique fuel limit text = .ok (fields, rest) →
      rest.length < text.length) := by
  induction fuel with
  | zero =>
      intro limit text rest
      exact ⟨nofun, nofun, nofun⟩
  | succ fuel ih =>
      intro limit text rest
      refine ⟨?_, ?_, ?_⟩
      · intro value h
        rcases scanOnce_ok h with ⟨body, codes, rfl, hstring, -⟩ | ⟨body, rfl, -, hclose, -⟩ |
          ⟨body, l, items, rfl, -, hitems, -⟩ | ⟨body, rfl, -, hclose, -⟩ |
          ⟨body, l, fields, rfl, -, hfields, -, -⟩ | hatom
        · have hlt := length_scanString hstring
          rw [List.length_cons]
          omega
        · have hle := length_skipSpace_le body
          rw [hclose, List.length_cons] at hle
          rw [List.length_cons]
          omega
        · have hle := length_skipSpace_le body
          have hlt := (ih l _ rest).2.1 items hitems
          rw [List.length_cons]
          omega
        · have hle := length_skipSpace_le body
          rw [hclose, List.length_cons] at hle
          rw [List.length_cons]
          omega
        · have hle := length_skipSpace_le body
          have hlt := (ih l _ rest).2.2 fields hfields
          rw [List.length_cons]
          omega
        · exact length_scanAtom hatom
      · intro items h
        obtain ⟨item, tail, hitem, hend⟩ := scanItems_ok h
        have hlt := (ih limit text tail).1 item hitem
        have hle := length_skipSpace_le tail
        rcases hend with ⟨hclose, -⟩ | ⟨tail', items', hcomma, hitems, -⟩
        · rw [hclose, List.length_cons] at hle
          omega
        · have hle' := length_skipSpace_le tail'
          have hlt' := (ih limit _ rest).2.1 items' hitems
          rw [hcomma, List.length_cons] at hle
          omega
      · intro fields h
        obtain ⟨key, body, value, tail, hname, hvalue, hend⟩ := scanFields_ok h
        have hname := length_scanName hname
        have hlt := (ih limit body tail).1 value hvalue
        have hle := length_skipSpace_le tail
        rcases hend with ⟨hclose, -⟩ | ⟨tail', fields', hcomma, hfields, -⟩
        · rw [hclose, List.length_cons] at hle
          omega
        · have hle' := length_skipSpace_le tail'
          have hlt' := (ih limit _ rest).2.2 fields' hfields
          rw [hcomma, List.length_cons] at hle
          omega

/-- With fuel for the length of the text, the scanner does not stop for want of it. -/
lemma fuel_suffices (fuel : Nat) : ∀ limit text,
    (2 * text.length + 1 ≤ fuel → scanOnce unique fuel limit text ≠ .error .fuel) ∧
    (2 * text.length + 2 ≤ fuel → scanItems unique fuel limit text ≠ .error .fuel) ∧
    (2 * text.length + 2 ≤ fuel → scanFields unique fuel limit text ≠ .error .fuel) := by
  induction fuel with
  | zero =>
      intro limit text
      exact ⟨fun h => absurd h (by omega), fun h => absurd h (by omega),
        fun h => absurd h (by omega)⟩
  | succ fuel ih =>
      intro limit text
      refine ⟨?_, ?_, ?_⟩
      · intro hfuel h
        rcases scanOnce_error h with ⟨-, hne⟩ | ⟨-, hne⟩ | ⟨body, l, rfl, -, hitems⟩ |
          ⟨body, l, rfl, -, hfields⟩
        · exact hne rfl
        · cases hne
        · have hle := length_skipSpace_le body
          rw [List.length_cons] at hfuel
          exact (ih l _).2.1 (by omega) hitems
        · have hle := length_skipSpace_le body
          rw [List.length_cons] at hfuel
          exact (ih l _).2.2 (by omega) hfields
      · intro hfuel h
        rcases scanItems_error h with hmal | hitem | ⟨item, tail, tail', hitem, hcomma, hitems⟩
        · cases hmal
        · exact (ih limit text).1 (by omega) hitem
        · have hlt := (length_scan fuel limit text tail).1 item hitem
          have hle := length_skipSpace_le tail
          have hle' := length_skipSpace_le tail'
          rw [hcomma, List.length_cons] at hle
          exact (ih limit _).2.1 (by omega) hitems
      · intro hfuel h
        rcases scanFields_error h with hmal | ⟨key, body, hname, hvalue |
          ⟨value, tail, tail', hvalue, hcomma, hfields⟩⟩
        · cases hmal
        · have hlt := length_scanName hname
          exact (ih limit body).1 (by omega) hvalue
        · have hname := length_scanName hname
          have hlt := (length_scan fuel limit body tail).1 value hvalue
          have hle := length_skipSpace_le tail
          have hle' := length_skipSpace_le tail'
          rw [hcomma, List.length_cons] at hle
          exact (ih limit _).2.2 (by omega) hfields

/-- No more containers are open than there is fuel. -/
lemma limit_suffices (fuel : Nat) : ∀ limit text, fuel ≤ limit →
    scanOnce unique fuel limit text ≠ .error .recursion ∧
    scanItems unique fuel limit text ≠ .error .recursion ∧
    scanFields unique fuel limit text ≠ .error .recursion := by
  induction fuel with
  | zero =>
      intro limit text _
      exact ⟨nofun, nofun, nofun⟩
  | succ fuel ih =>
      intro limit text hle
      refine ⟨?_, ?_, ?_⟩
      · intro h
        rcases scanOnce_error h with ⟨hne, -⟩ | ⟨hzero, -⟩ | ⟨body, l, -, hl, hitems⟩ |
          ⟨body, l, -, hl, hfields⟩
        · exact hne rfl
        · omega
        · exact (ih l _ (by omega)).2.1 hitems
        · exact (ih l _ (by omega)).2.2 hfields
      · intro h
        rcases scanItems_error h with hmal | hitem | ⟨item, tail, tail', -, -, hitems⟩
        · cases hmal
        · exact (ih limit text (by omega)).1 hitem
        · exact (ih limit _ (by omega)).2.1 hitems
      · intro h
        rcases scanFields_error h with hmal | ⟨key, body, -, hvalue |
          ⟨value, tail, tail', -, -, hfields⟩⟩
        · cases hmal
        · exact (ih limit body (by omega)).1 hvalue
        · exact (ih limit _ (by omega)).2.2 hfields

/-- `x` is what a scanner with fewer open containers yields where `y` is the result: the same, or
a `RecursionError`. -/
def Below {α : Type} (x y : Except ScanError α) : Prop := x = .error .recursion ∨ x = y

lemma below_refl {α : Type} (x : Except ScanError α) : Below x x := .inr rfl

/-- A larger limit changes nothing but a `RecursionError`. -/
lemma below_of_le (fuel : Nat) : ∀ limit limit' text, limit ≤ limit' →
    Below (scanOnce unique fuel limit text) (scanOnce unique fuel limit' text) ∧
    Below (scanItems unique fuel limit text) (scanItems unique fuel limit' text) ∧
    Below (scanFields unique fuel limit text) (scanFields unique fuel limit' text) := by
  induction fuel with
  | zero =>
      intro limit limit' text _
      exact ⟨below_refl _, below_refl _, below_refl _⟩
  | succ fuel ih =>
      intro limit limit' text hle
      refine ⟨?_, ?_, ?_⟩
      · unfold scanOnce
        split
        · exact below_refl _
        · next body =>
          cases limit with
          | zero => exact .inl rfl
          | succ l =>
              obtain ⟨l', rfl⟩ : ∃ l', limit' = l' + 1 := ⟨limit' - 1, by omega⟩
              simp only
              split
              · exact below_refl _
              · rcases (ih l l' (skipSpace body) (by omega)).2.1 with heq | heq
                · rw [heq]
                  exact .inl rfl
                · rw [heq]
                  exact below_refl _
        · next body =>
          cases limit with
          | zero => exact .inl rfl
          | succ l =>
              obtain ⟨l', rfl⟩ : ∃ l', limit' = l' + 1 := ⟨limit' - 1, by omega⟩
              simp only
              split
              · exact below_refl _
              · rcases (ih l l' (skipSpace body) (by omega)).2.2 with heq | heq
                · rw [heq]
                  exact .inl rfl
                · rw [heq]
                  exact below_refl _
        · exact below_refl _
      · unfold scanItems
        rcases (ih limit limit' text hle).1 with heq | heq
        · rw [heq]
          exact .inl rfl
        · rw [heq]
          split
          · exact below_refl _
          · split
            · exact below_refl _
            · next tail' _ =>
              rcases (ih limit limit' (skipSpace tail') hle).2.1 with heq' | heq'
              · rw [heq']
                exact .inl rfl
              · rw [heq']
                exact below_refl _
            · exact below_refl _
      · unfold scanFields
        split
        · exact below_refl _
        · next key body _ =>
          rcases (ih limit limit' body hle).1 with heq | heq
          · rw [heq]
            exact .inl rfl
          · rw [heq]
            split
            · exact below_refl _
            · split
              · exact below_refl _
              · next tail' _ =>
                rcases (ih limit limit' (skipSpace tail') hle).2.2 with heq' | heq'
                · rw [heq']
                  exact .inl rfl
                · rw [heq']
                  exact below_refl _
              · exact below_refl _

end runs

end Scan

/-! ## Whole texts -/

/-- `json.loads(text)`, with the hook where `unique` is set, and at most `limit` open
containers. -/
def scan (unique : Bool) (limit : Nat) (text : List Char) : Except ScanError Scanned :=
  match Scan.scanOnce unique (2 * text.length + 1) limit (Scan.skipSpace text) with
  | .ok (value, rest) => if Scan.skipSpace rest = [] then .ok value else .error .malformed
  | .error e => .error e

section scan

variable {unique : Bool} {limit : Nat} {text : List Char}

lemma scan_error {e : ScanError} (h : scan unique limit text = .error e) :
    e = .malformed ∨
      Scan.scanOnce unique (2 * text.length + 1) limit (Scan.skipSpace text) = .error e := by
  unfold scan at h
  split at h
  · split_ifs at h
    exact .inl (Except.error.inj h).symm
  · next hscan =>
    cases h
    exact .inr hscan

/-- The scanner has enough fuel. -/
theorem scan_ne_fuel : scan unique limit text ≠ .error .fuel := by
  intro h
  have hle := Scan.length_skipSpace_le text
  rcases scan_error h with hmal | hfuel
  · cases hmal
  · exact (Scan.fuel_suffices _ limit (Scan.skipSpace text)).1 (by omega) hfuel

/-- A text of `n` characters opens at most `2 n + 1` containers. -/
lemma scan_ne_recursion (h : 2 * text.length + 1 ≤ limit) :
    scan unique limit text ≠ .error .recursion := by
  intro herror
  rcases scan_error herror with hmal | hrec
  · cases hmal
  · exact (Scan.limit_suffices _ limit (Scan.skipSpace text) h).1 hrec

/-- Where a text is read or rejected, a larger limit does the same. -/
theorem scan_mono {limit' : Nat} (hle : limit ≤ limit')
    (h : scan unique limit text ≠ .error .recursion) :
    scan unique limit' text = scan unique limit text := by
  unfold scan at h ⊢
  rcases (@Scan.below_of_le unique (2 * text.length + 1) limit limit'
    (Scan.skipSpace text) hle).1 with heq | heq
  · rw [heq] at h
    exact absurd rfl h
  · rw [heq]

end scan

end AgentRuntimeOps.Lib
