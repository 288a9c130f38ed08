import Mathlib.Data.List.TakeWhile
import Mathlib.Data.String.Basic
import AgentRuntimeOps.Lib.JsonScan

/-!
# Writing and reading JSON back

`Json.Canonical` says that a value is one a text can spell: integers within the digit limit, floats
in the form `float.__repr__` gives them, names of objects sorted and distinct.  What the scanner
reads is canonical (`canonical_of_scan`), and the scanner reads the compact text of a canonical
value back (`scan_dumps`); so the compact text determines the value (`dumps_injective`).

How a float token is rounded and written is a parameter, `FloatData`.
-/

namespace AgentRuntimeOps.Lib

/-! ## Floats -/

/-- The token of a number that is read as a float. -/
def IsFloatToken (token : List Char) : Prop := Scan.scanNumber token = .ok (.float token, [])

/-- The constants that stand for floats without a decimal text. -/
def floatConstants : List (List Char) := ["NaN".toList, "Infinity".toList, "-Infinity".toList]

/-- What `float` and `float.__repr__` do with a token. -/
class FloatData where
  /-- `json.dumps(float(token))`. -/
  repr : List Char → List Char
  /-- The text of a float is a token for it, unless the token is too large to be finite. -/
  repr_repr : ∀ token, IsFloatToken token →
    repr token ∈ floatConstants ∨ (IsFloatToken (repr token) ∧ repr (repr token) = repr token)
  /-- `float(token) == i`. -/
  eqInt : String → Int → Bool

/-- Every float is zero. -/
@[reducible] def FloatData.zero : FloatData where
  repr _ := ['0', '.', '0']
  repr_repr _ _ := .inr ⟨rfl, rfl⟩
  eqInt _ i := decide (i = 0)

variable [FloatData]

/-- The text that `json.dumps` writes for the float of a token. -/
def floatText (token : List Char) : List Char :=
  if token ∈ floatConstants then token else FloatData.repr token

/-- A text that `json.dumps` writes for a float. -/
def IsFloatText (text : List Char) : Prop :=
  text ∈ floatConstants ∨ (IsFloatToken text ∧ FloatData.repr text = text)

/-- A token of a float, as the scanner yields it. -/
def IsFloatRead (token : List Char) : Prop := token ∈ floatConstants ∨ IsFloatToken token

lemma isFloatText_floatText {token : List Char} (h : IsFloatRead token) :
    IsFloatText (floatText token) := by
  unfold floatText
  split_ifs with hconst
  · exact .inl hconst
  · exact FloatData.repr_repr token (h.resolve_left hconst)

lemma floatText_eq {text : List Char} (h : IsFloatText text) : floatText text = text := by
  unfold floatText
  split_ifs with hconst
  · rfl
  · exact (h.resolve_left hconst).2

/-! ## Canonical values -/

/-- The integer has few enough digits to be converted from and to a text. -/
def IntFits (i : Int) : Prop := (Nat.toDigits 10 i.natAbs).length ≤ maxIntDigits

namespace Json

mutual
/-- A value that a text spells. -/
def Canonical : Json → Prop
  | null => True
  | bool _ => True
  | int i => IntFits i
  | float text => IsFloatText text.toList
  | str _ => True
  | arr items => CanonicalItems items
  | obj fields => CanonicalFields fields

/-- The items of an array. -/
def CanonicalItems : List Json → Prop
  | [] => True
  | item :: rest => Canonical item ∧ CanonicalItems rest

/-- The fields of an object, by sorted name. -/
def CanonicalFields : List (String × Json) → Prop
  | [] => True
  | (name, value) :: rest =>
    (∀ f ∈ rest, name < f.1) ∧ Canonical value ∧ CanonicalFields rest
end

end Json

mutual
/-- How many containers of a value are open at once. -/
def Json.nesting : Json → Nat
  | .arr items => Json.nestingItems items + 1
  | .obj fields => Json.nestingFields fields + 1
  | _ => 0

/-- How many containers of the items are open at once. -/
def Json.nestingItems : List Json → Nat
  | [] => 0
  | item :: rest => max item.nesting (Json.nestingItems rest)

/-- How many containers of the fields are open at once. -/
def Json.nestingFields : List (String × Json) → Nat
  | [] => 0
  | (_, value) :: rest => max value.nesting (Json.nestingFields rest)
end

mutual
/-- How many containers of a value are open at once. -/
def Scanned.nesting : Scanned → Nat
  | .arr items => Scanned.nestingItems items + 1
  | .obj fields => Scanned.nestingFields fields + 1
  | _ => 0

/-- How many containers of the items are open at once. -/
def Scanned.nestingItems : List Scanned → Nat
  | [] => 0
  | item :: rest => max item.nesting (Scanned.nestingItems rest)

/-- How many containers of the fields are open at once. -/
def Scanned.nestingFields : List (List Nat × Scanned) → Nat
  | [] => 0
  | (_, value) :: rest => max value.nesting (Scanned.nestingFields rest)
end

/-! ## The value of what was read -/

/-- The text of some code points; `none` where one of them is a surrogate. -/
def textOf? (codes : List Nat) : Option String :=
  if codes.all (fun code => decide code.isValidChar) then
    some (String.ofList (codes.map Char.ofNat))
  else none

/-- A further field of an object, in front of the fields that follow it: a later field of the same
name replaces it. -/
def placeField (name : String) (value : Json) : List (String × Json) → List (String × Json)
  | [] => [(name, value)]
  | (name', value') :: rest =>
    if name < name' then (name, value) :: (name', value') :: rest
    else if name = name' then (name', value') :: rest
    else (name', value') :: placeField name value rest

mutual
/-- The value that was read; `none` where a text in it holds a lone surrogate. -/
def Scanned.toJson? : Scanned → Option Json
  | .null => some .null
  | .bool b => some (.bool b)
  | .int i => some (.int i)
  | .float token => some (.float (String.ofList (floatText token)))
  | .str codes => (textOf? codes).map .str
  | .arr items => (Scanned.itemsToJson? items).map .arr
  | .obj fields => (Scanned.fieldsToJson? fields).map .obj

/-- The items of an array. -/
def Scanned.itemsToJson? : List Scanned → Option (List Json)
  | [] => some []
  | item :: rest =>
    match item.toJson?, Scanned.itemsToJson? rest with
    | some item, some rest => some (item :: rest)
    | _, _ => none

/-- The fields of an object, by sorted name. -/
def Scanned.fieldsToJson? : List (List Nat × Scanned) → Option (List (String × Json))
  | [] => some []
  | (key, value) :: rest =>
    match textOf? key, value.toJson?, Scanned.fieldsToJson? rest with
    | some name, some value, some rest => some (placeField name value rest)
    | _, _, _ => none
end

omit [FloatData] in
lemma mem_placeField {name : String} {value : Json} {fields : List (String × Json)}
    {f : String × Json} (h : f ∈ placeField name value fields) : f = (name, value) ∨ f ∈ fields := by
  induction fields with
  | nil => exact .inl (List.mem_singleton.mp h)
  | cons g rest ih =>
      obtain ⟨name', value'⟩ := g
      rw [placeField] at h
      split_ifs at h
      · exact List.mem_cons.mp h
      · exact .inr h
      · rcases List.mem_cons.mp h with rfl | hrest
        · exact .inr List.mem_cons_self
        · rcases ih hrest with rfl | hmem
          · exact .inl rfl
          · exact .inr (List.mem_cons_of_mem _ hmem)

/-- Insertion keeps the fields sorted. -/
lemma canonicalFields_placeField {name : String} {value : Json} {fields : List (String × Json)}
    (hvalue : value.Canonical) (h : Json.CanonicalFields fields) :
    Json.CanonicalFields (placeField name value fields) := by
  induction fields with
  | nil => exact ⟨nofun, hvalue, trivial⟩
  | cons g rest ih =>
      obtain ⟨name', value'⟩ := g
      obtain ⟨hlt, hvalue', hrest⟩ := h
      rw [placeField]
      split_ifs with h₁ h₂
      · refine ⟨?_, hvalue, hlt, hvalue', hrest⟩
        intro f hf
        rcases List.mem_cons.mp hf with rfl | hf
        · exact h₁
        · exact h₁.trans (hlt f hf)
      · exact ⟨hlt, hvalue', hrest⟩
      · have hgt : name' < name := lt_of_le_of_ne (not_lt.mp h₁) (Ne.symm h₂)
        refine ⟨?_, hvalue', ih hrest⟩
        intro f hf
        rcases mem_placeField hf with rfl | hf
        · exact hgt
        · exact hlt f hf

/-! ## What is read is canonical -/

omit [FloatData] in
lemma ofDigitChars_lt {ds : List Char} (h : ds.all Char.isDigit = true) (init : Nat) :
    Nat.ofDigitChars 10 ds init < (init + 1) * 10 ^ ds.length := by
  induction ds generalizing init with
  | nil => simp
  | cons c ds ih =>
      rw [List.all_cons, Bool.and_eq_true] at h
      have hlt := ih h.2 (10 * init + (c.toNat - '0'.toNat))
      have hc : c.toNat - '0'.toNat ≤ 9 := by
        have hdigit := h.1
        simp only [Char.isDigit, Bool.and_eq_true, decide_eq_true_eq, ge_iff_le,
          UInt32.le_iff_toNat_le] at hdigit
        have hle : c.toNat ≤ 57 := hdigit.2
        change c.toNat - 48 ≤ 9
        omega
      rw [Nat.ofDigitChars_cons]
      calc Nat.ofDigitChars 10 ds (10 * init + (c.toNat - '0'.toNat))
          < (10 * init + (c.toNat - '0'.toNat) + 1) * 10 ^ ds.length := hlt
        _ ≤ (10 * (init + 1)) * 10 ^ ds.length := Nat.mul_le_mul_right _ (by omega)
        _ = (init + 1) * 10 ^ (c :: ds).length := by rw [List.length_cons, pow_succ]; ring

omit [FloatData] in
lemma all_isDigit_of_isInteger {digits : List Char} (h : Scan.IsInteger digits) :
    digits.all Char.isDigit = true := by
  rcases h with rfl | ⟨c, ds, rfl, -, hc, hds⟩
  · decide
  · rw [List.all_cons, hc, hds]
    rfl

omit [FloatData] in
lemma intFits_signedValue {sign digits : List Char} (h : Scan.IsInteger digits)
    (hlen : digits.length ≤ maxIntDigits) : IntFits (Scan.signedValue sign digits) := by
  have hlt := ofDigitChars_lt (all_isDigit_of_isInteger h) 0
  have hpow : 10 ^ digits.length ≤ 10 ^ maxIntDigits := Nat.pow_le_pow_right (by decide) hlen
  have habs : (Scan.signedValue sign digits).natAbs = Nat.ofDigitChars 10 digits 0 := by
    unfold Scan.signedValue
    split_ifs
    · exact Int.natAbs_natCast _
    · rw [Int.natAbs_neg, Int.natAbs_natCast]
  unfold IntFits
  rw [habs, Nat.length_toDigits_le_iff (by decide) (by decide)]
  omega

mutual
/-- A value within the limits of the scanner. -/
def Scanned.Bounded : Scanned → Prop
  | .int i => IntFits i
  | .float token => IsFloatRead token
  | .arr items => Scanned.BoundedItems items
  | .obj fields => Scanned.BoundedFields fields
  | _ => True

/-- The items of an array. -/
def Scanned.BoundedItems : List Scanned → Prop
  | [] => True
  | item :: rest => item.Bounded ∧ Scanned.BoundedItems rest

/-- The fields of an object. -/
def Scanned.BoundedFields : List (List Nat × Scanned) → Prop
  | [] => True
  | (_, value) :: rest => value.Bounded ∧ Scanned.BoundedFields rest
end

omit [FloatData] in
/-- A float token is read alone as it is in front of other text. -/
lemma bounded_scanNumber {text rest : List Char} {value : Scanned}
    (h : Scan.scanNumber text = .ok (value, rest)) : value.Bounded := by
  obtain ⟨sign, digits, fraction, exponent, hsign, hdigits, hfraction, hexponent, -, hvalue⟩ :=
    Scan.scanNumber_parts h
  rcases hvalue with ⟨-, -, hlen, rfl⟩ | ⟨hfloat, rfl⟩
  · exact intFits_signedValue hdigits hlen
  · have halone := Scan.scanNumber_append hsign hdigits hfraction hexponent
      (show Scan.Delimited [] from nofun)
    rw [if_neg hfloat, List.append_nil, ← List.append_assoc, ← List.append_assoc] at halone
    exact .inr halone

omit [FloatData] in
lemma bounded_scanAtom {text rest : List Char} {value : Scanned}
    (h : Scan.scanAtom text = .ok (value, rest)) : value.Bounded := by
  unfold Scan.scanAtom at h
  split at h
  · cases h; exact trivial
  · cases h; exact trivial
  · cases h; exact trivial
  · cases h; exact .inl (by decide)
  · cases h; exact .inl (by decide)
  · cases h; exact .inl (by decide)
  · exact bounded_scanNumber h

omit [FloatData] in
/-- What is read is within the limits. -/
lemma bounded_scanOnce {unique : Bool} (fuel : Nat) : ∀ limit text rest,
    (∀ value, Scan.scanOnce unique fuel limit text = .ok (value, rest) → value.Bounded) ∧
    (∀ items, Scan.scanItems unique fuel limit text = .ok (items, rest) →
      Scanned.BoundedItems items) ∧
    (∀ fields, Scan.scanFields unique fuel limit text = .ok (fields, rest) →
      Scanned.BoundedFields fields) := by
  induction fuel with
  | zero =>
      intro limit text rest
      exact ⟨nofun, nofun, nofun⟩
  | succ fuel ih =>
      intro limit text rest
      refine ⟨?_, ?_, ?_⟩
      · intro value h
        rcases Scan.scanOnce_ok h with ⟨_, _, -, -, rfl⟩ | ⟨_, -, -, -, rfl⟩ |
          ⟨body, l, items, -, -, hitems, rfl⟩ | ⟨_, -, -, -, rfl⟩ |
          ⟨body, l, fields, -, -, hfields, rfl, -⟩ | hatom
        · exact trivial
        · exact trivial
        · exact (ih l _ rest).2.1 items hitems
        · exact trivial
        · exact (ih l _ rest).2.2 fields hfields
        · exact bounded_scanAtom hatom
      · intro items h
        obtain ⟨item, tail, hitem, hend⟩ := Scan.scanItems_ok h
        have hitem := (ih limit text tail).1 item hitem
        rcases hend with ⟨-, rfl⟩ | ⟨tail', items', -, hitems, rfl⟩
        · exact ⟨hitem, trivial⟩
        · exact ⟨hitem, (ih limit _ rest).2.1 items' hitems⟩
      · intro fields h
        obtain ⟨key, body, value, tail, -, hvalue, hend⟩ := Scan.scanFields_ok h
        have hvalue := (ih limit body tail).1 value hvalue
        rcases hend with ⟨-, rfl⟩ | ⟨tail', fields', -, hfields, rfl⟩
        · exact ⟨hvalue, trivial⟩
        · exact ⟨hvalue, (ih limit _ rest).2.2 fields' hfields⟩

omit [FloatData] in
lemma bounded_of_scan {unique : Bool} {limit : Nat} {text : List Char} {value : Scanned}
    (h : scan unique limit text = .ok value) : value.Bounded := by
  unfold scan at h
  split at h
  · next value' rest hscan =>
    split_ifs at h
    cases h
    exact (bounded_scanOnce _ limit _ rest).1 value hscan
  · cases h

mutual
/-- The value of something within the limits is canonical. -/
lemma canonical_of_toJson? : ∀ {value : Scanned} {json : Json}, value.Bounded →
    value.toJson? = some json → json.Canonical
  | .null, _, _, h => by cases h; exact trivial
  | .bool _, _, _, h => by cases h; exact trivial
  | .int _, _, hb, h => by cases h; exact hb
  | .float token, _, hb, h => by
      cases h
      change IsFloatText _
      rw [String.toList_ofList]
      exact isFloatText_floatText hb
  | .str codes, _, _, h => by
      obtain ⟨_, -, rfl⟩ := Option.map_eq_some_iff.mp h
      exact trivial
  | .arr items, _, hb, h => by
      obtain ⟨items', hitems, rfl⟩ := Option.map_eq_some_iff.mp h
      exact canonicalItems_of_toJson? hb hitems
  | .obj fields, _, hb, h => by
      obtain ⟨fields', hfields, rfl⟩ := Option.map_eq_some_iff.mp h
      exact canonicalFields_of_toJson? hb hfields

lemma canonicalItems_of_toJson? : ∀ {items : List Scanned} {json : List Json},
    Scanned.BoundedItems items → Scanned.itemsToJson? items = some json → Json.CanonicalItems json
  | [], _, _, h => by cases h; exact trivial
  | item :: rest, _, hb, h => by
      rw [Scanned.itemsToJson?] at h
      split at h
      · next item' rest' hitem hrest =>
        cases h
        exact ⟨canonical_of_toJson? hb.1 hitem, canonicalItems_of_toJson? hb.2 hrest⟩
      · cases h

lemma canonicalFields_of_toJson? : ∀ {fields : List (List Nat × Scanned)}
    {json : List (String × Json)}, Scanned.BoundedFields fields →
    Scanned.fieldsToJson? fields = some json → Json.CanonicalFields json
  | [], _, _, h => by cases h; exact trivial
  | (key, value) :: rest, _, hb, h => by
      rw [Scanned.fieldsToJson?] at h
      split at h
      · next name value' rest' _ hvalue hrest =>
        cases h
        exact canonicalFields_placeField (canonical_of_toJson? hb.1 hvalue)
          (canonicalFields_of_toJson? hb.2 hrest)
      · cases h
end

/-! ## Reading a text back -/

omit [FloatData] in
lemma isInteger_toDigits (n : Nat) : Scan.IsInteger (Nat.toDigits 10 n) := by
  induction n using Nat.strong_induction_on with
  | _ n ih =>
      by_cases hlt : n < 10
      · rw [Nat.toDigits_of_lt_base hlt]
        interval_cases n
        · exact .inl (by decide)
        all_goals exact .inr ⟨_, [], rfl, by decide, by decide, rfl⟩
      · rw [Nat.toDigits_of_base_le (by decide) (by omega)]
        have hlast : (Nat.digitChar (n % 10)).isDigit = true := by
          have hmod : n % 10 < 10 := Nat.mod_lt _ (by decide)
          generalize n % 10 = m at hmod
          interval_cases m <;> decide
        rcases ih (n / 10) (by omega) with hzero | ⟨c, ds, hds, hc, hdigit, hall⟩
        · -- A number from ten on has a quotient that is not zero.
          have hvalue : Nat.ofDigitChars 10 (Nat.toDigits 10 (n / 10)) 0 = n / 10 :=
            Nat.ofDigitChars_ten_toDigits
          rw [hzero] at hvalue
          have hnull : Nat.ofDigitChars 10 ['0'] 0 = 0 := by decide
          omega
        · refine .inr ⟨c, ds ++ [Nat.digitChar (n % 10)], ?_, hc, hdigit, ?_⟩
          · rw [hds, List.cons_append]
          · rw [List.all_append, hall, List.all_cons, hlast]
            rfl

omit [FloatData] in
/-- The text of an integer is its sign and its digits. -/
lemma toList_toString_int (i : Int) : ∃ sign digits, (toString i).toList = sign ++ digits ∧
    (sign = [] ∨ sign = ['-']) ∧ digits = Nat.toDigits 10 i.natAbs ∧
    Scan.signedValue sign digits = i := by
  cases i with
  | ofNat n =>
      refine ⟨[], Nat.toDigits 10 n, Nat.toList_repr, .inl rfl, rfl, ?_⟩
      unfold Scan.signedValue
      rw [if_pos rfl, Nat.ofDigitChars_ten_toDigits]
      rfl
  | negSucc n =>
      refine ⟨['-'], Nat.toDigits 10 (n + 1), ?_, .inr rfl, rfl, ?_⟩
      · change ("-" ++ Nat.repr (n + 1)).toList = _
        rw [String.toList_append, Nat.toList_repr]
        rfl
      · unfold Scan.signedValue
        rw [if_neg (by decide), Nat.ofDigitChars_ten_toDigits]
        rfl

namespace Scan

variable {unique : Bool} {fuel limit : Nat}

omit [FloatData] in
lemma scanOnce_atom {text : List Char} (h : ∀ c ∈ text.head?, c ≠ '"' ∧ c ≠ '[' ∧ c ≠ '\x7b') :
    scanOnce unique (fuel + 1) limit text = scanAtom text := by
  unfold scanOnce
  split
  · exact absurd rfl (h _ rfl).1
  · exact absurd rfl (h _ rfl).2.1
  · exact absurd rfl (h _ rfl).2.2
  · rfl

omit [FloatData] in
/-- A text that starts with a sign and a digit is a number. -/
lemma scanAtom_number {sign digits tail : List Char} (hsign : sign = [] ∨ sign = ['-'])
    (hdigits : IsInteger digits) :
    scanAtom (sign ++ (digits ++ tail)) = scanNumber (sign ++ (digits ++ tail)) := by
  obtain ⟨c, ds, rfl, hc⟩ : ∃ c ds, digits = c :: ds ∧ c.isDigit = true := by
    rcases hdigits with rfl | ⟨c, ds, rfl, -, hc, -⟩
    · exact ⟨'0', [], rfl, by decide⟩
    · exact ⟨c, ds, rfl, hc⟩
  rw [List.cons_append]
  generalize ds ++ tail = body
  rcases hsign with rfl | rfl
  · change scanAtom (c :: body) = scanNumber (c :: body)
    unfold scanAtom
    split
    all_goals first
      | rfl
      | (next heq => cases heq; exact absurd hc (by decide))
  · change scanAtom ('-' :: c :: body) = scanNumber ('-' :: c :: body)
    unfold scanAtom
    split
    all_goals first
      | rfl
      | (next heq => cases heq; done)
      | (next heq => cases heq; exact absurd hc (by decide))

omit [FloatData] in
lemma head_number {sign digits tail : List Char} (hsign : sign = [] ∨ sign = ['-'])
    (hdigits : IsInteger digits) :
    ∀ c ∈ (sign ++ (digits ++ tail)).head?, c ≠ '"' ∧ c ≠ '[' ∧ c ≠ '\x7b' := by
  obtain ⟨d, ds, rfl, hd⟩ : ∃ c ds, digits = c :: ds ∧ c.isDigit = true := by
    rcases hdigits with rfl | ⟨c, ds, rfl, -, hc, -⟩
    · exact ⟨'0', [], rfl, by decide⟩
    · exact ⟨c, ds, rfl, hc⟩
  intro c hc
  rcases hsign with rfl | rfl
  · cases hc
    refine ⟨?_, ?_, ?_⟩
    all_goals
      rintro rfl
      exact absurd hd (by decide)
  · cases hc
    decide

omit [FloatData] in
/-- An integer is read back. -/
lemma scanOnce_int {i : Int} {rest : List Char} (h : IntFits i)
    (hrest : Delimited rest) :
    scanOnce unique (fuel + 1) limit ((toString i).toList ++ rest) = .ok (.int i, rest) := by
  obtain ⟨sign, digits, htext, hsign, rfl, hvalue⟩ := toList_toString_int i
  have hinteger := isInteger_toDigits i.natAbs
  have hlen : (Nat.toDigits 10 i.natAbs).length ≤ maxIntDigits := h
  have hnumber := scanNumber_append hsign hinteger (.inl rfl) (.inl rfl) hrest
  rw [if_pos ⟨rfl, rfl⟩, if_pos hlen, hvalue, List.nil_append, List.nil_append] at hnumber
  rw [htext, List.append_assoc, scanOnce_atom (head_number hsign hinteger),
    scanAtom_number hsign hinteger, hnumber]

omit [FloatData] in
/-- A float token is read in front of other text as it is alone. -/
lemma scanOnce_float {token rest : List Char} (h : IsFloatRead token) (hrest : Delimited rest) :
    scanOnce unique (fuel + 1) limit (token ++ rest) = .ok (.float token, rest) := by
  rcases h with hconst | htoken
  · rcases List.mem_cons.mp hconst with rfl | hconst
    · rfl
    · rcases List.mem_cons.mp hconst with rfl | hconst
      · rfl
      · cases List.mem_singleton.mp hconst
        rfl
  · obtain ⟨sign, digits, fraction, exponent, hsign, hdigits, hfraction, hexponent, htext, hvalue⟩ :=
      scanNumber_parts htoken
    rcases hvalue with ⟨-, -, -, hint⟩ | ⟨hfloat, -⟩
    · cases hint
    · have hnumber := scanNumber_append hsign hdigits hfraction hexponent hrest
      rw [List.append_nil] at htext
      have hassoc : sign ++ digits ++ fraction ++ exponent = token := by
        rw [htext]
        simp only [List.append_assoc]
      have happ : token ++ rest = sign ++ (digits ++ (fraction ++ (exponent ++ rest))) := by
        rw [htext]
        simp only [List.append_assoc]
      rw [if_neg hfloat, hassoc] at hnumber
      rw [happ, scanOnce_atom (head_number hsign hdigits), scanAtom_number hsign hdigits, hnumber]

omit [FloatData] in
lemma hexValue?_hexDigit {n : Nat} (h : n < 16) : hexValue? (hexDigit n) = some n := by
  interval_cases n <;> rfl

omit [FloatData] in
lemma scanCodes_unicodeEscape {n : Nat} (h : n < 65536) (tail : List Char) :
    scanCodes (Json.unicodeEscape n ++ tail) = push n (scanCodes tail) := by
  have hdigit : ∀ m, hexValue? (hexDigit (m % 16)) = some (m % 16) :=
    fun m => hexValue?_hexDigit (Nat.mod_lt _ (by decide))
  have hcode : hexCode? (hexDigit (n / 4096 % 16)) (hexDigit (n / 256 % 16))
      (hexDigit (n / 16 % 16)) (hexDigit (n % 16)) = some n := by
    unfold hexCode?
    simp only [hdigit, Option.bind_eq_bind, Option.bind_some, Option.pure_def, Option.some.injEq]
    omega
  unfold Json.unicodeEscape
  simp only [List.cons_append, List.nil_append]
  rw [scanCodes, hcode]

omit [FloatData] in
/-- An escaped character is read back. -/
lemma scanCodes_escapeChar (c : Char) (tail : List Char) :
    scanCodes (Json.escapeChar c ++ tail) = push c.toNat (scanCodes tail) := by
  unfold Json.escapeChar
  split
  · next text htext =>
    unfold Json.escapeShort at htext
    split at htext
    all_goals first
      | (cases htext; rfl)
      | cases htext
  · next hshort =>
    split_ifs with hlt
    · exact scanCodes_unicodeEscape (by omega) tail
    · have hquote : c ≠ '"' := by
        rintro rfl
        cases hshort
      have hslash : c ≠ '\\' := by
        rintro rfl
        cases hshort
      change scanCodes (c :: tail) = _
      rw [scanCodes]
      · rw [if_neg]
        rintro (h | h)
        · exact hslash h
        · exact hlt h
      · exact hquote
      · intro a b c' d rest h
        exact absurd h hslash
      · intro c' rest h
        exact absurd h hslash

omit [FloatData] in
lemma scanCodes_text (text rest : List Char) :
    scanCodes (text.flatMap Json.escapeChar ++ '"' :: rest) = .ok (text.map Char.toNat, rest) := by
  induction text with
  | nil => rfl
  | cons c text ih =>
      rw [List.flatMap_cons, List.append_assoc, scanCodes_escapeChar, ih]
      rfl

omit [FloatData] in
/-- The code points of characters hold no surrogate. -/
lemma joinSurrogates_map (text : List Char) :
    joinSurrogates (text.map Char.toNat) = text.map Char.toNat := by
  induction text with
  | nil => rfl
  | cons c text ih =>
      cases text with
      | nil => rfl
      | cons d text =>
          have hhigh : isHigh c.toNat = false := by
            have hvalid : c.toNat.isValidChar := c.valid
            unfold isHigh
            simp only [decide_eq_false_iff_not]
            unfold Nat.isValidChar at hvalid
            omega
          rw [List.map_cons, List.map_cons, joinSurrogates, hhigh]
          rw [List.map_cons] at ih
          rw [ih]
          rfl

omit [FloatData] in
lemma scanString_text (s : String) (rest : List Char) :
    scanString (s.toList.flatMap Json.escapeChar ++ '"' :: rest) =
      .ok (s.toList.map Char.toNat, rest) := by
  unfold scanString
  rw [scanCodes_text]
  simp only [joinSurrogates_map]

end Scan

mutual
/-- A value as the scanner reads it from its text. -/
def Json.scanned : Json → Scanned
  | .null => .null
  | .bool b => .bool b
  | .int i => .int i
  | .float text => .float text.toList
  | .str s => .str (s.toList.map Char.toNat)
  | .arr items => .arr (Json.scannedItems items)
  | .obj fields => .obj (Json.scannedFields fields)

/-- The items of an array as they are read. -/
def Json.scannedItems : List Json → List Scanned
  | [] => []
  | item :: rest => item.scanned :: Json.scannedItems rest

/-- The fields of an object as they are read. -/
def Json.scannedFields : List (String × Json) → List (List Nat × Scanned)
  | [] => []
  | (name, value) :: rest => (name.toList.map Char.toNat, value.scanned) :: Json.scannedFields rest
end

namespace Scan

omit [FloatData] in
lemma skipSpace_cons {c : Char} {text : List Char} (h : isSpace c = false) :
    skipSpace (c :: text) = c :: text := by
  unfold skipSpace
  rw [List.dropWhile_cons_of_neg (by rw [h]; decide)]

omit [FloatData] in
lemma number_head {sign digits : List Char} (hsign : sign = [] ∨ sign = ['-'])
    (hdigits : IsInteger digits) :
    ∃ c tail, sign ++ digits = c :: tail ∧ isSpace c = false ∧ c ≠ ']' := by
  rcases hsign with rfl | rfl
  · rcases hdigits with rfl | ⟨c, ds, rfl, -, hc, -⟩
    · exact ⟨'0', [], rfl, by decide, by decide⟩
    · refine ⟨c, ds, rfl, ?_, ?_⟩
      · unfold isSpace
        simp only [Bool.or_eq_false_iff, beq_eq_false_iff_ne]
        refine ⟨⟨⟨?_, ?_⟩, ?_⟩, ?_⟩
        all_goals
          rintro rfl
          exact absurd hc (by decide)
      · rintro rfl
        exact absurd hc (by decide)
  · exact ⟨'-', digits, rfl, by decide, by decide⟩

/-- The text of a value starts with none of the characters that the scanner skips or takes for an
end. -/
lemma dumps_head {value : Json} (h : value.Canonical) :
    ∃ c tail, value.dumps = c :: tail ∧ isSpace c = false ∧ c ≠ ']' := by
  unfold Json.dumps
  cases value with
  | null => exact ⟨'n', _, rfl, by decide, by decide⟩
  | bool b =>
      cases b
      · exact ⟨'f', _, rfl, by decide, by decide⟩
      · exact ⟨'t', _, rfl, by decide, by decide⟩
  | int i =>
      obtain ⟨sign, digits, htext, hsign, rfl, -⟩ := toList_toString_int i
      rw [Json.dumpsWith, htext]
      exact number_head hsign (isInteger_toDigits _)
  | float text =>
      rw [Json.dumpsWith]
      rcases (show IsFloatText text.toList from h) with hconst | ⟨htoken, -⟩
      · rcases List.mem_cons.mp hconst with heq | hconst
        · exact ⟨'N', _, heq, by decide, by decide⟩
        · rcases List.mem_cons.mp hconst with heq | hconst
          · exact ⟨'I', _, heq, by decide, by decide⟩
          · exact ⟨'-', _, List.mem_singleton.mp hconst, by decide, by decide⟩
      · obtain ⟨sign, digits, fraction, exponent, hsign, hdigits, -, -, htext, -⟩ :=
          scanNumber_parts htoken
        obtain ⟨c, tail, hhead, hspace, hclose⟩ := number_head hsign hdigits
        refine ⟨c, tail ++ (fraction ++ (exponent ++ [])), ?_, hspace, hclose⟩
        rw [htext, ← List.append_assoc, hhead, List.cons_append]
  | str s => exact ⟨'"', _, rfl, by decide, by decide⟩
  | arr items => exact ⟨'[', _, by rw [Json.dumpsWith]; rfl, by decide, by decide⟩
  | obj fields => exact ⟨'\x7b', _, by rw [Json.dumpsWith]; rfl, by decide, by decide⟩

omit [FloatData] in
lemma delimited_cons {c : Char} {text : List Char}
    (h : c.isDigit = false ∧ c ≠ '.' ∧ c ≠ 'e' ∧ c ≠ 'E') : Delimited (c :: text) := by
  intro c' hc'
  cases hc'
  exact h

omit [FloatData] in
lemma map_toNat_injective : Function.Injective (fun s : String => s.toList.map Char.toNat) := by
  intro s t h
  have hlist : s.toList = t.toList :=
    List.map_injective_iff.mpr (fun a b hab => Char.ext (UInt32.toNat_inj.mp hab)) h
  exact String.toList_injective hlist

/-- Sorted names do not repeat. -/
lemma repeatedName_scannedFields {fields : List (String × Json)}
    (h : Json.CanonicalFields fields) {seen : List (List Nat)}
    (hseen : ∀ f ∈ fields, f.1.toList.map Char.toNat ∉ seen) :
    repeatedName seen (Json.scannedFields fields) = none := by
  induction fields generalizing seen with
  | nil => rfl
  | cons f rest ih =>
      obtain ⟨name, value⟩ := f
      obtain ⟨hlt, -, hrest⟩ := h
      rw [Json.scannedFields, repeatedName, if_neg (hseen _ List.mem_cons_self)]
      apply ih hrest
      intro f hf hmem
      rcases List.mem_cons.mp hmem with heq | hmem
      · have hname : f.1 = name := map_toNat_injective heq
        exact absurd (hlt f hf) (by rw [hname]; exact lt_irrefl name)
      · exact hseen f (List.mem_cons_of_mem _ hf) hmem

omit [FloatData] in
lemma dumpsItems_cons_cons (item next : Json) (rest : List Json) :
    Json.dumpsItems Json.escapeChar Json.compact (item :: next :: rest) =
      item.dumps ++ ',' :: Json.dumpsItems Json.escapeChar Json.compact (next :: rest) := by
  rw [Json.dumpsItems, List.append_assoc]
  · rfl
  · exact nofun

omit [FloatData] in
lemma dumpsFields_singleton (name : String) (value : Json) :
    Json.dumpsFields Json.escapeChar Json.compact [(name, value)] =
      Json.dumpsString Json.escapeChar name ++ ':' :: value.dumps := by
  rw [Json.dumpsFields, List.append_assoc]
  rfl

omit [FloatData] in
lemma dumpsFields_cons_cons (name : String) (value : Json) (next : String × Json)
    (rest : List (String × Json)) :
    Json.dumpsFields Json.escapeChar Json.compact ((name, value) :: next :: rest) =
      Json.dumpsString Json.escapeChar name ++ ':' :: (value.dumps ++ ',' ::
        Json.dumpsFields Json.escapeChar Json.compact (next :: rest)) := by
  rw [Json.dumpsFields, List.append_assoc, List.append_assoc, List.append_assoc]
  · rfl
  · exact nofun

variable {unique : Bool}

omit [FloatData] in
/-- A name is read back, with its colon. -/
lemma scanName_dumpsString {name : String} {c : Char} {tail : List Char}
    (hspace : isSpace c = false) :
    scanName (Json.dumpsString Json.escapeChar name ++ ':' :: c :: tail) =
      .ok (name.toList.map Char.toNat, c :: tail) := by
  have htext : Json.dumpsString Json.escapeChar name ++ ':' :: c :: tail =
      '"' :: (name.toList.flatMap Json.escapeChar ++ '"' :: ':' :: c :: tail) := by
    simp [Json.dumpsString]
  have hcolon : skipSpace (':' :: c :: tail) = ':' :: c :: tail := skipSpace_cons (by decide)
  rw [htext, scanName, scanString_text]
  simp only [hcolon, skipSpace_cons hspace]

omit [FloatData] in
/-- The fields of a non-empty object start with a quote. -/
lemma dumpsFields_head (f : String × Json) (rest : List (String × Json)) :
    ∃ tail, Json.dumpsFields Json.escapeChar Json.compact (f :: rest) = '"' :: tail := by
  obtain ⟨name, value⟩ := f
  cases rest with
  | nil => exact ⟨_, dumpsFields_singleton name value⟩
  | cons g rest => exact ⟨_, dumpsFields_cons_cons name value g rest⟩

lemma dumpsItems_head {item : Json} (rest : List Json) (h : item.Canonical) :
    ∃ c tail, Json.dumpsItems Json.escapeChar Json.compact (item :: rest) = c :: tail ∧
      isSpace c = false ∧ c ≠ ']' := by
  obtain ⟨c, tail, hdumps, hspace, hclose⟩ := dumps_head h
  unfold Json.dumps at hdumps
  cases rest with
  | nil => exact ⟨c, tail, by rw [Json.dumpsItems, hdumps], hspace, hclose⟩
  | cons next rest =>
      refine ⟨c, tail ++ ',' :: Json.dumpsItems Json.escapeChar Json.compact (next :: rest), ?_,
        hspace, hclose⟩
      rw [dumpsItems_cons_cons, Json.dumps, hdumps, List.cons_append]

mutual
/-- The text of a canonical value is read back, whatever follows it. -/
theorem scanOnce_dumps : ∀ (value : Json) (fuel limit : Nat) (rest : List Char),
    value.Canonical → value.nesting ≤ limit → 2 * value.dumps.length + 1 ≤ fuel →
    Delimited rest →
    scanOnce unique fuel limit (value.dumps ++ rest) = .ok (value.scanned, rest)
  | .null, fuel + 1, limit, rest, _, _, _, _ => rfl
  | .bool true, fuel + 1, limit, rest, _, _, _, _ => rfl
  | .bool false, fuel + 1, limit, rest, _, _, _, _ => rfl
  | .int i, fuel + 1, limit, rest, hvalue, _, _, hrest => by
      unfold Json.dumps
      rw [Json.dumpsWith, Json.scanned]
      exact scanOnce_int hvalue hrest
  | .float text, fuel + 1, limit, rest, hvalue, _, _, hrest => by
      unfold Json.dumps
      rw [Json.dumpsWith, Json.scanned]
      refine scanOnce_float ?_ hrest
      rcases (show IsFloatText text.toList from hvalue) with hconst | ⟨htoken, -⟩
      · exact .inl hconst
      · exact .inr htoken
  | .str s, fuel + 1, limit, rest, _, _, _, _ => by
      have htext : (Json.str s).dumps ++ rest =
          '"' :: (s.toList.flatMap Json.escapeChar ++ '"' :: rest) := by
        simp [Json.dumps, Json.dumpsWith, Json.dumpsString]
      rw [htext, scanOnce, scanString_text, Json.scanned]
  | .arr items, fuel + 1, limit, rest, hvalue, hnesting, hfuel, _ => by
      obtain ⟨limit, rfl⟩ : ∃ l, limit = l + 1 := by
        rw [Json.nesting] at hnesting
        exact ⟨limit - 1, by omega⟩
      rw [Json.nesting] at hnesting
      have htext : (Json.arr items).dumps ++ rest =
          '[' :: (Json.dumpsItems Json.escapeChar Json.compact items ++ ']' :: rest) := by
        simp [Json.dumps, Json.dumpsWith]
      have hlen : (Json.arr items).dumps.length =
          (Json.dumpsItems Json.escapeChar Json.compact items).length + 2 := by
        simp [Json.dumps, Json.dumpsWith]
      rw [hlen] at hfuel
      rw [htext, scanOnce, Json.scanned]
      cases items with
      | nil =>
          simp only [Json.dumpsItems, List.nil_append]
          rw [skipSpace_cons (by decide)]
          rfl
      | cons item items =>
          have hitems := scanItems_dumps item items fuel limit rest hvalue (by omega) (by omega)
          obtain ⟨c, tail, hhead, hspace, hclose⟩ := dumpsItems_head items hvalue.1
          rw [hhead, List.cons_append] at hitems ⊢
          rw [skipSpace_cons hspace]
          split
          · next heq =>
            cases heq
            exact absurd rfl hclose
          · rw [hitems]
  | .obj fields, fuel + 1, limit, rest, hvalue, hnesting, hfuel, _ => by
      obtain ⟨limit, rfl⟩ : ∃ l, limit = l + 1 := by
        rw [Json.nesting] at hnesting
        exact ⟨limit - 1, by omega⟩
      rw [Json.nesting] at hnesting
      have htext : (Json.obj fields).dumps ++ rest =
          '\x7b' :: (Json.dumpsFields Json.escapeChar Json.compact fields ++ '\x7d' :: rest) := by
        simp [Json.dumps, Json.dumpsWith]
      have hlen : (Json.obj fields).dumps.length =
          (Json.dumpsFields Json.escapeChar Json.compact fields).length + 2 := by
        simp [Json.dumps, Json.dumpsWith]
      have hunique : makeObject unique (Json.scannedFields fields) rest =
          .ok (.obj (Json.scannedFields fields), rest) := by
        have hnone : repeatedName [] (Json.scannedFields fields) = none :=
          repeatedName_scannedFields hvalue (fun f _ => List.not_mem_nil)
        unfold makeObject
        rw [hnone, ite_self]
      rw [hlen] at hfuel
      rw [htext, scanOnce, Json.scanned]
      cases fields with
      | nil =>
          simp only [Json.dumpsFields, List.nil_append]
          rw [skipSpace_cons (by decide)]
          exact hunique
      | cons f fields =>
          have hfields := scanFields_dumps f fields fuel limit rest hvalue (by omega) (by omega)
          obtain ⟨tail, hhead⟩ := dumpsFields_head f fields
          rw [hhead, List.cons_append] at hfields ⊢
          rw [skipSpace_cons (by decide)]
          split
          · next heq => cases heq
          · rw [hfields]
            exact hunique

/-- The items of an array are read back. -/
theorem scanItems_dumps : ∀ (item : Json) (items : List Json) (fuel limit : Nat)
    (rest : List Char), Json.CanonicalItems (item :: items) →
    Json.nestingItems (item :: items) ≤ limit →
    2 * (Json.dumpsItems Json.escapeChar Json.compact (item :: items)).length + 2 ≤ fuel →
    scanItems unique fuel limit
      (Json.dumpsItems Json.escapeChar Json.compact (item :: items) ++ ']' :: rest) =
        .ok (Json.scannedItems (item :: items), rest)
  | item, [], fuel + 1, limit, rest, hitems, hnesting, hfuel => by
      rw [Json.nestingItems] at hnesting
      rw [Json.dumpsItems] at hfuel ⊢
      have hitem := scanOnce_dumps item fuel limit (']' :: rest) hitems.1 (by omega) (by unfold Json.dumps; omega) (delimited_cons (by decide))
      unfold Json.dumps at hitem
      rw [scanItems, hitem]
      simp only [skipSpace_cons (show isSpace ']' = false by decide)]
      rfl
  | item, next :: items, fuel + 1, limit, rest, hitems, hnesting, hfuel => by
      rw [Json.nestingItems] at hnesting
      have htext : Json.dumpsItems Json.escapeChar Json.compact (item :: next :: items) ++
          ']' :: rest = item.dumps ++ ',' ::
            (Json.dumpsItems Json.escapeChar Json.compact (next :: items) ++ ']' :: rest) := by
        rw [dumpsItems_cons_cons, List.append_assoc, List.cons_append]
      rw [dumpsItems_cons_cons, List.length_append, List.length_cons] at hfuel
      have hitem := scanOnce_dumps item fuel limit
        (',' :: (Json.dumpsItems Json.escapeChar Json.compact (next :: items) ++
          ']' :: rest)) hitems.1 (by omega) (by omega) (delimited_cons (by decide))
      have hnext := scanItems_dumps next items fuel limit rest hitems.2 (by omega) (by omega)
      obtain ⟨c, tail, hhead, hspace, -⟩ := dumpsItems_head items hitems.2.1
      rw [htext, scanItems, hitem]
      simp only [skipSpace_cons (show isSpace ',' = false by decide)]
      rw [hhead, List.cons_append] at hnext ⊢
      rw [skipSpace_cons hspace, hnext]
      rfl

/-- The fields of an object are read back. -/
theorem scanFields_dumps : ∀ (f : String × Json) (fields : List (String × Json))
    (fuel limit : Nat) (rest : List Char), Json.CanonicalFields (f :: fields) →
    Json.nestingFields (f :: fields) ≤ limit →
    2 * (Json.dumpsFields Json.escapeChar Json.compact (f :: fields)).length + 2 ≤ fuel →
    scanFields unique fuel limit
      (Json.dumpsFields Json.escapeChar Json.compact (f :: fields) ++ '\x7d' :: rest) =
        .ok (Json.scannedFields (f :: fields), rest)
  | (name, value), [], fuel + 1, limit, rest, hfields, hnesting, hfuel => by
      obtain ⟨-, hvalue, -⟩ := hfields
      rw [Json.nestingFields] at hnesting
      have htext : Json.dumpsFields Json.escapeChar Json.compact [(name, value)] ++ '\x7d' :: rest =
          Json.dumpsString Json.escapeChar name ++ ':' :: (value.dumps ++ '\x7d' :: rest) := by
        rw [dumpsFields_singleton, List.append_assoc, List.cons_append]
      rw [dumpsFields_singleton, List.length_append, List.length_cons] at hfuel
      have hread := scanOnce_dumps value fuel limit ('\x7d' :: rest) hvalue (by omega) (by omega) (delimited_cons (by decide))
      obtain ⟨c, tail, hhead, hspace, -⟩ := dumps_head hvalue
      rw [hhead, List.cons_append] at hread
      rw [htext, hhead, List.cons_append, scanFields, scanName_dumpsString hspace]
      simp only [hread, skipSpace_cons (show isSpace '\x7d' = false by decide)]
      rfl
  | (name, value), next :: fields, fuel + 1, limit, rest, hfields, hnesting, hfuel => by
      obtain ⟨-, hvalue, hrest⟩ := hfields
      rw [Json.nestingFields] at hnesting
      have htext : Json.dumpsFields Json.escapeChar Json.compact ((name, value) :: next :: fields) ++
          '\x7d' :: rest = Json.dumpsString Json.escapeChar name ++ ':' :: (value.dumps ++ ',' ::
            (Json.dumpsFields Json.escapeChar Json.compact (next :: fields) ++ '\x7d' :: rest)) := by
        rw [dumpsFields_cons_cons]
        simp only [List.append_assoc, List.cons_append]
      rw [dumpsFields_cons_cons, List.length_append, List.length_cons, List.length_append,
        List.length_cons] at hfuel
      have hread := scanOnce_dumps value fuel limit
        (',' :: (Json.dumpsFields Json.escapeChar Json.compact (next :: fields) ++
          '\x7d' :: rest)) hvalue (by omega) (by omega) (delimited_cons (by decide))
      have hnext := scanFields_dumps next fields fuel limit rest hrest (by omega) (by omega)
      obtain ⟨c, tail, hhead, hspace, -⟩ := dumps_head hvalue
      obtain ⟨tail', hquote⟩ := dumpsFields_head next fields
      rw [hhead, List.cons_append] at hread
      rw [htext, hhead, List.cons_append, scanFields, scanName_dumpsString hspace]
      simp only [hread, skipSpace_cons (show isSpace ',' = false by decide)]
      rw [hquote, List.cons_append] at hnext ⊢
      rw [skipSpace_cons (show isSpace '"' = false by decide), hnext]
      rfl
end

end Scan

/-! ## Values and their texts -/

omit [FloatData] in
lemma textOf?_toNat (s : String) : textOf? (s.toList.map Char.toNat) = some s := by
  have hvalid : (s.toList.map Char.toNat).all (fun code => decide code.isValidChar) = true := by
    rw [List.all_map, List.all_eq_true]
    intro c _
    exact decide_eq_true c.valid
  have hchars : (s.toList.map Char.toNat).map Char.ofNat = s.toList := by
    rw [List.map_map]
    exact List.map_id'' (fun c => Char.ofNat_toNat c) _
  unfold textOf?
  rw [if_pos hvalid, hchars, String.ofList_toList]

omit [FloatData] in
/-- A field with the first name goes to the front. -/
lemma placeField_of_lt {name : String} {value : Json} {fields : List (String × Json)}
    (h : ∀ f ∈ fields, name < f.1) : placeField name value fields = (name, value) :: fields := by
  cases fields with
  | nil => rfl
  | cons f rest =>
      obtain ⟨name', value'⟩ := f
      rw [placeField, if_pos (h _ List.mem_cons_self)]

mutual
/-- A canonical value is the value of what is read from its text. -/
lemma toJson?_scanned : ∀ {value : Json}, value.Canonical → value.scanned.toJson? = some value
  | .null, _ => rfl
  | .bool _, _ => rfl
  | .int _, _ => rfl
  | .float text, h => by
      rw [Json.scanned, Scanned.toJson?, floatText_eq h, String.ofList_toList]
  | .str s, _ => by
      rw [Json.scanned, Scanned.toJson?, textOf?_toNat]
      rfl
  | .arr items, h => by
      rw [Json.scanned, Scanned.toJson?, itemsToJson?_scanned h]
      rfl
  | .obj fields, h => by
      rw [Json.scanned, Scanned.toJson?, fieldsToJson?_scanned h]
      rfl

lemma itemsToJson?_scanned : ∀ {items : List Json}, Json.CanonicalItems items →
    Scanned.itemsToJson? (Json.scannedItems items) = some items
  | [], _ => rfl
  | item :: rest, h => by
      rw [Json.scannedItems, Scanned.itemsToJson?, toJson?_scanned h.1, itemsToJson?_scanned h.2]

lemma fieldsToJson?_scanned : ∀ {fields : List (String × Json)}, Json.CanonicalFields fields →
    Scanned.fieldsToJson? (Json.scannedFields fields) = some fields
  | [], _ => rfl
  | (name, value) :: rest, h => by
      rw [Json.scannedFields, Scanned.fieldsToJson?, textOf?_toNat, toJson?_scanned h.2.1,
        fieldsToJson?_scanned h.2.2]
      simp only [placeField_of_lt h.1]
end

omit [FloatData] in
lemma nesting_of_scanAtom {text rest : List Char} {value : Scanned}
    (h : Scan.scanAtom text = .ok (value, rest)) : value.nesting = 0 := by
  unfold Scan.scanAtom at h
  split at h
  all_goals first
    | (cases h; rfl)
    | skip
  obtain ⟨_, _, _, _, -, -, -, -, -, hvalue⟩ := Scan.scanNumber_parts h
  rcases hvalue with ⟨-, -, -, rfl⟩ | ⟨-, rfl⟩
  · rfl
  · rfl

omit [FloatData] in
/-- What is read with a limit opens no more containers. -/
lemma nesting_of_scanOnce {unique : Bool} (fuel : Nat) : ∀ limit text rest,
    (∀ value, Scan.scanOnce unique fuel limit text = .ok (value, rest) → value.nesting ≤ limit) ∧
    (∀ items, Scan.scanItems unique fuel limit text = .ok (items, rest) →
      Scanned.nestingItems items ≤ limit) ∧
    (∀ fields, Scan.scanFields unique fuel limit text = .ok (fields, rest) →
      Scanned.nestingFields fields ≤ limit) := by
  induction fuel with
  | zero =>
      intro limit text rest
      exact ⟨nofun, nofun, nofun⟩
  | succ fuel ih =>
      intro limit text rest
      refine ⟨?_, ?_, ?_⟩
      · intro value h
        rcases Scan.scanOnce_ok h with ⟨_, _, -, -, rfl⟩ | ⟨_, -, hpos, -, rfl⟩ |
          ⟨body, l, items, -, rfl, hitems, rfl⟩ | ⟨_, -, hpos, -, rfl⟩ |
          ⟨body, l, fields, -, rfl, hfields, rfl, -⟩ | hatom
        · exact Nat.zero_le _
        · exact hpos
        · exact Nat.succ_le_succ ((ih l _ rest).2.1 items hitems)
        · exact hpos
        · exact Nat.succ_le_succ ((ih l _ rest).2.2 fields hfields)
        · rw [nesting_of_scanAtom hatom]
          exact Nat.zero_le _
      · intro items h
        obtain ⟨item, tail, hitem, hend⟩ := Scan.scanItems_ok h
        have hitem := (ih limit text tail).1 item hitem
        rcases hend with ⟨-, rfl⟩ | ⟨tail', items', -, hitems, rfl⟩
        · exact max_le hitem (Nat.zero_le _)
        · exact max_le hitem ((ih limit _ rest).2.1 items' hitems)
      · intro fields h
        obtain ⟨key, body, value, tail, -, hvalue, hend⟩ := Scan.scanFields_ok h
        have hvalue := (ih limit body tail).1 value hvalue
        rcases hend with ⟨-, rfl⟩ | ⟨tail', fields', -, hfields, rfl⟩
        · exact max_le hvalue (Nat.zero_le _)
        · exact max_le hvalue ((ih limit _ rest).2.2 fields' hfields)

omit [FloatData] in
mutual
lemma nesting_scanned : ∀ value : Json, value.scanned.nesting = value.nesting
  | .null => rfl
  | .bool _ => rfl
  | .int _ => rfl
  | .float _ => rfl
  | .str _ => rfl
  | .arr items => by
      rw [Json.scanned, Scanned.nesting, Json.nesting, nesting_scannedItems items]
  | .obj fields => by
      rw [Json.scanned, Scanned.nesting, Json.nesting, nesting_scannedFields fields]

lemma nesting_scannedItems : ∀ items : List Json,
    Scanned.nestingItems (Json.scannedItems items) = Json.nestingItems items
  | [] => rfl
  | item :: rest => by
      rw [Json.scannedItems, Scanned.nestingItems, Json.nestingItems, nesting_scanned item,
        nesting_scannedItems rest]

lemma nesting_scannedFields : ∀ fields : List (String × Json),
    Scanned.nestingFields (Json.scannedFields fields) = Json.nestingFields fields
  | [] => rfl
  | (name, value) :: rest => by
      rw [Json.scannedFields, Scanned.nestingFields, Json.nestingFields, nesting_scanned value,
        nesting_scannedFields rest]
end

omit [FloatData] in
lemma nesting_of_scan {unique : Bool} {limit : Nat} {text : List Char} {value : Scanned}
    (h : scan unique limit text = .ok value) : value.nesting ≤ limit := by
  unfold scan at h
  split at h
  · next value' rest hscan =>
    split_ifs at h
    cases h
    exact (nesting_of_scanOnce _ limit _ rest).1 value hscan
  · cases h

omit [FloatData] in
lemma nestingFields_placeField (name : String) (value : Json) (fields : List (String × Json)) :
    Json.nestingFields (placeField name value fields) ≤
      max value.nesting (Json.nestingFields fields) := by
  induction fields with
  | nil => exact le_rfl
  | cons f rest ih =>
      obtain ⟨name', value'⟩ := f
      rw [placeField]
      split_ifs
      · exact le_rfl
      · exact le_max_right _ _
      · simp only [Json.nestingFields]
        omega

mutual
/-- The value of what was read opens no more containers. -/
lemma nesting_of_toJson? : ∀ {value : Scanned} {json : Json}, value.toJson? = some json →
    json.nesting ≤ value.nesting
  | .null, _, h => by cases h; exact le_rfl
  | .bool _, _, h => by cases h; exact le_rfl
  | .int _, _, h => by cases h; exact le_rfl
  | .float _, _, h => by cases h; exact le_rfl
  | .str codes, _, h => by
      obtain ⟨_, -, rfl⟩ := Option.map_eq_some_iff.mp h
      exact le_rfl
  | .arr items, _, h => by
      obtain ⟨items', hitems, rfl⟩ := Option.map_eq_some_iff.mp h
      exact Nat.succ_le_succ (nestingItems_of_toJson? hitems)
  | .obj fields, _, h => by
      obtain ⟨fields', hfields, rfl⟩ := Option.map_eq_some_iff.mp h
      exact Nat.succ_le_succ (nestingFields_of_toJson? hfields)

lemma nestingItems_of_toJson? : ∀ {items : List Scanned} {json : List Json},
    Scanned.itemsToJson? items = some json →
    Json.nestingItems json ≤ Scanned.nestingItems items
  | [], _, h => by cases h; exact le_rfl
  | item :: rest, _, h => by
      rw [Scanned.itemsToJson?] at h
      split at h
      · next item' rest' hitem hrest =>
        cases h
        exact max_le_max (nesting_of_toJson? hitem) (nestingItems_of_toJson? hrest)
      · cases h

lemma nestingFields_of_toJson? : ∀ {fields : List (List Nat × Scanned)}
    {json : List (String × Json)}, Scanned.fieldsToJson? fields = some json →
    Json.nestingFields json ≤ Scanned.nestingFields fields
  | [], _, h => by cases h; exact le_rfl
  | (key, value) :: rest, _, h => by
      rw [Scanned.fieldsToJson?] at h
      split at h
      · next name value' rest' _ hvalue hrest =>
        cases h
        exact (nestingFields_placeField _ _ _).trans
          (max_le_max (nesting_of_toJson? hvalue) (nestingFields_of_toJson? hrest))
      · cases h
end

/-- A text that is only white space. -/
def IsBlank (text : List Char) : Prop := text.all Scan.isSpace = true

omit [FloatData] in
lemma skipSpace_of_isBlank {text : List Char} (h : IsBlank text) : Scan.skipSpace text = [] := by
  unfold Scan.skipSpace
  rw [List.dropWhile_eq_nil_iff]
  exact fun c hc => List.all_eq_true.mp h c hc

omit [FloatData] in
lemma delimited_of_isBlank {text : List Char} (h : IsBlank text) : Scan.Delimited text := by
  intro c hc
  have hspace := List.all_eq_true.mp h c (List.mem_of_mem_head? hc)
  unfold Scan.isSpace at hspace
  simp only [Bool.or_eq_true, beq_iff_eq] at hspace
  rcases hspace with ((rfl | rfl) | rfl) | rfl
  all_goals decide

/-- **A compact text is read back.** The scanner reads the value that was written, and fails only
where the value opens more containers than its limit. -/
theorem scan_dumps {value : Json} (h : value.Canonical) (unique : Bool) (limit : Nat)
    {blank : List Char} (hblank : IsBlank blank) :
    scan unique limit (value.dumps ++ blank) =
      if value.nesting ≤ limit then .ok value.scanned else .error .recursion := by
  obtain ⟨c, tail, hhead, hspace, -⟩ := Scan.dumps_head h
  have hskip : Scan.skipSpace (value.dumps ++ blank) = value.dumps ++ blank := by
    rw [hhead, List.cons_append, Scan.skipSpace_cons hspace]
  have hread : ∀ {limit}, value.nesting ≤ limit →
      scan unique limit (value.dumps ++ blank) = .ok value.scanned := by
    intro limit hle
    unfold scan
    rw [hskip, Scan.scanOnce_dumps value _ limit blank h hle
      (by rw [List.length_append]; omega) (delimited_of_isBlank hblank)]
    simp only [skipSpace_of_isBlank hblank, if_true]
  by_cases hle : value.nesting ≤ limit
  · rw [if_pos hle, hread hle]
  · rw [if_neg hle]
    by_contra hne
    have hmono := scan_mono (not_le.mp hle).le hne
    rw [hread le_rfl] at hmono
    have hnesting := nesting_of_scan hmono.symm
    rw [nesting_scanned] at hnesting
    exact hle hnesting

/-- The compact text determines a canonical value. -/
theorem dumps_injective {value value' : Json} (h : value.Canonical) (h' : value'.Canonical)
    (heq : value.dumps = value'.dumps) : value = value' := by
  have hblank : IsBlank [] := rfl
  have hread := scan_dumps h true (max value.nesting value'.nesting) hblank
  have hread' := scan_dumps h' true (max value.nesting value'.nesting) hblank
  rw [if_pos (le_max_left _ _)] at hread
  rw [if_pos (le_max_right _ _), ← heq, hread] at hread'
  have hjson := toJson?_scanned h
  rw [Except.ok.inj hread', toJson?_scanned h'] at hjson
  exact (Option.some.inj hjson).symm

/-! ## Objects by their names -/

/-- Sorted names and canonical values make an object canonical. -/
lemma canonicalFields_of_keys {fields : List (String × Json)}
    (hkeys : (fields.map Prod.fst).Pairwise (· < ·)) (hvalues : ∀ f ∈ fields, f.2.Canonical) :
    Json.CanonicalFields fields := by
  induction fields with
  | nil => exact trivial
  | cons f rest ih =>
      obtain ⟨name, value⟩ := f
      rw [List.map_cons, List.pairwise_cons] at hkeys
      rw [List.forall_mem_cons] at hvalues
      refine ⟨?_, hvalues.1, ih hkeys.2 hvalues.2⟩
      intro g hg
      exact hkeys.1 g.1 (List.mem_map_of_mem hg)

lemma canonicalFields_mem {fields : List (String × Json)} (h : Json.CanonicalFields fields)
    {f : String × Json} (hf : f ∈ fields) : f.2.Canonical := by
  induction fields with
  | nil => cases hf
  | cons g rest ih =>
      obtain ⟨name, value⟩ := g
      rcases List.mem_cons.mp hf with rfl | hf
      · exact h.2.1
      · exact ih h.2.2 hf

/-- A part of a canonical value is canonical. -/
lemma canonical_field {value : Json} (h : value.Canonical) (name : String) :
    (value.field name).Canonical := by
  unfold Json.field
  cases hpart : value.get? name with
  | none => exact trivial
  | some part =>
      cases value with
      | obj fields =>
          obtain ⟨l₁, l₂, hfields, -⟩ := List.lookup_eq_some_iff.mp hpart
          have hmem : (name, part) ∈ fields := by simp [hfields]
          exact canonicalFields_mem h hmem
      | _ => cases hpart

mutual
/-- `json.dumps` writes the value: no integer in it has too many digits. -/
def Json.Writable : Json → Prop
  | .int i => IntFits i
  | .arr items => Json.WritableItems items
  | .obj fields => Json.WritableFields fields
  | _ => True

/-- The items of an array. -/
def Json.WritableItems : List Json → Prop
  | [] => True
  | item :: rest => item.Writable ∧ Json.WritableItems rest

/-- The fields of an object. -/
def Json.WritableFields : List (String × Json) → Prop
  | [] => True
  | (_, value) :: rest => value.Writable ∧ Json.WritableFields rest
end

/-! ## A check for literal values -/

mutual
/-- A value without floats and with short integers, whose names are sorted. -/
def Json.plain : Json → Bool
  | .null => true
  | .bool _ => true
  | .int i => decide (i.natAbs < 1000000)
  | .float _ => false
  | .str _ => true
  | .arr items => Json.plainItems items
  | .obj fields => Json.plainFields fields

/-- The items of an array. -/
def Json.plainItems : List Json → Bool
  | [] => true
  | item :: rest => item.plain && Json.plainItems rest

/-- The fields of an object. -/
def Json.plainFields : List (String × Json) → Bool
  | [] => true
  | (name, value) :: rest =>
    rest.all (fun f => decide (name < f.1)) && value.plain && Json.plainFields rest
end

omit [FloatData] in
lemma intFits_of_lt {i : Int} (h : i.natAbs < 1000000) : IntFits i := by
  unfold IntFits
  have hsix : (Nat.toDigits 10 i.natAbs).length ≤ 6 :=
    (Nat.length_toDigits_le_iff (by decide) (by decide)).mpr h
  exact hsix.trans (by decide)

mutual
lemma canonical_of_plain : ∀ {value : Json}, value.plain = true → value.Canonical
  | .null, _ => trivial
  | .bool _, _ => trivial
  | .int _, h => intFits_of_lt (of_decide_eq_true h)
  | .str _, _ => trivial
  | .arr _, h => canonicalItems_of_plain h
  | .obj _, h => canonicalFields_of_plain h

lemma canonicalItems_of_plain : ∀ {items : List Json}, Json.plainItems items = true →
    Json.CanonicalItems items
  | [], _ => trivial
  | item :: rest, h => by
      rw [Json.plainItems, Bool.and_eq_true] at h
      exact ⟨canonical_of_plain h.1, canonicalItems_of_plain h.2⟩

lemma canonicalFields_of_plain : ∀ {fields : List (String × Json)},
    Json.plainFields fields = true → Json.CanonicalFields fields
  | [], _ => trivial
  | (name, value) :: rest, h => by
      rw [Json.plainFields, Bool.and_eq_true, Bool.and_eq_true, List.all_eq_true] at h
      exact ⟨fun f hf => of_decide_eq_true (h.1.1 f hf), canonical_of_plain h.1.2,
        canonicalFields_of_plain h.2⟩
end

/-! ## Open containers -/

/-- Whether a result is a `RecursionError`. -/
def recurses : Except ScanError Scanned → Bool
  | .error .recursion => true
  | _ => false

omit [FloatData] in
lemma recurses_iff {x : Except ScanError Scanned} : recurses x = true ↔ x = .error .recursion := by
  constructor
  · intro h
    unfold recurses at h
    split at h
    · rfl
    · cases h
  · rintro rfl
    rfl

/-- The number of containers that the scanner has open at once in a text, up to where it stops. -/
def openContainers (unique : Bool) (text : List Char) : Nat :=
  @Nat.find (fun limit => recurses (scan unique limit text) = false) inferInstance
    ⟨2 * text.length + 1, by
      rw [Bool.eq_false_iff, Ne, recurses_iff]
      exact scan_ne_recursion le_rfl⟩

omit [FloatData] in
/-- A limit is hit exactly by the texts that open more containers. -/
theorem openContainers_le_iff {unique : Bool} {limit : Nat} {text : List Char} :
    openContainers unique text ≤ limit ↔ scan unique limit text ≠ .error .recursion := by
  unfold openContainers
  rw [Nat.find_le_iff]
  constructor
  · rintro ⟨limit', hle, hread⟩
    rw [Bool.eq_false_iff, Ne, recurses_iff] at hread
    rw [scan_mono hle hread]
    exact hread
  · intro h
    refine ⟨limit, le_rfl, ?_⟩
    rw [Bool.eq_false_iff, Ne, recurses_iff]
    exact h

/-! ## Bytes -/

/-- `raw.decode("utf-8")`; `none` for a `UnicodeDecodeError`. -/
def decodeUtf8? (bytes : List UInt8) : Option (List Char) :=
  bytes.toByteArray.utf8Decode?.map Array.toList

omit [FloatData] in
lemma decodeUtf8?_utf8 (text : List Char) : decodeUtf8? (utf8 text) = some text := by
  have hencode : (utf8 text).toByteArray = text.utf8Encode := rfl
  unfold decodeUtf8?
  rw [hencode, List.utf8Decode?_utf8Encode]
  rfl

omit [FloatData] in
lemma utf8_injective : Function.Injective utf8 := by
  intro s t h
  have hs := decodeUtf8?_utf8 s
  rw [h, decodeUtf8?_utf8] at hs
  exact (Option.some.inj hs).symm

end AgentRuntimeOps.Lib
