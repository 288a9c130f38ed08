import Mathlib
import AgentRuntimeOps.Lib.Json

/-!
# Bounds on the length of JSON texts

`Json.sizeWith` is the number of bytes of the text of a value.  The bounds are crude and compose:
a string takes at most six bytes per byte, an object the sum of its fields and four bytes for each
of them, and a part of a value is not longer than the value.  They serve to show that a text whose
parts are bounded stays below a limit; the limits are far away.
-/

namespace AgentRuntimeOps.Lib

lemma length_utf8_le (text : List Char) : (utf8 text).length ≤ 4 * text.length := by
  induction text with
  | nil => simp [utf8]
  | cons c rest ih =>
      have hc := Char.utf8Size_le_four c
      unfold utf8 at ih ⊢
      rw [List.flatMap_cons, List.length_append, String.length_utf8EncodeChar, List.length_cons]
      omega

lemma length_utf8_cons (c : Char) (rest : List Char) :
    (utf8 (c :: rest)).length = c.utf8Size + (utf8 rest).length := by
  unfold utf8
  rw [List.flatMap_cons, List.length_append, String.length_utf8EncodeChar]

namespace Json

/-- An encoder writes at most six bytes for each byte of a character. -/
def Escapes (escape : Char → List Char) : Prop :=
  ∀ c, (utf8 (escape c)).length ≤ 6 * c.utf8Size

/-- The separators have at most two bytes. -/
def Separators.Short (sep : Separators) : Prop :=
  (utf8 sep.item).length ≤ 2 ∧ (utf8 sep.key).length ≤ 2

lemma short_compact : compact.Short := ⟨by decide, by decide⟩

lemma short_spaced : spaced.Short := ⟨by decide, by decide⟩

lemma length_hexDigits (a b c d : Nat) :
    (utf8 ['\\', 'u', hexDigit (a % 16), hexDigit (b % 16), hexDigit (c % 16),
      hexDigit (d % 16)]).length = 6 := by
  have hdigit : ∀ n, (hexDigit (n % 16)).utf8Size = 1 := by
    intro n
    have hlt : n % 16 < 16 := Nat.mod_lt _ (by decide)
    generalize n % 16 = m at hlt
    interval_cases m <;> decide
  simp only [length_utf8_cons, hdigit]
  decide

lemma length_unicodeEscape (n : Nat) : (utf8 (unicodeEscape n)).length = 6 :=
  length_hexDigits _ _ _ _

/-- The escapes that both encoders share have two bytes. -/
lemma length_escapeShort {c : Char} {text : List Char} (h : escapeShort c = some text) :
    (utf8 text).length = 2 := by
  unfold escapeShort at h
  split at h <;> first | (cases h; decide) | cases h

lemma escapes_escapeChar : Escapes escapeChar := by
  intro c
  have hpos := Char.utf8Size_pos c
  unfold escapeChar
  split
  · next text htext =>
    rw [length_escapeShort htext]
    omega
  · split_ifs
    · rw [length_unicodeEscape]
      omega
    · rw [length_utf8_cons]
      change c.utf8Size + 0 ≤ 6 * c.utf8Size
      omega

lemma escapes_escapeCharAscii : Escapes escapeCharAscii := by
  intro c
  have hpos := Char.utf8Size_pos c
  unfold escapeCharAscii
  split
  · next text htext =>
    rw [length_escapeShort htext]
    omega
  · split_ifs with h₁ h₂
    · rw [length_utf8_cons]
      change c.utf8Size + 0 ≤ 6 * c.utf8Size
      omega
    · rw [length_unicodeEscape]
      omega
    · -- A character beyond the basic plane has four bytes, and its two escapes have twelve.
      rw [utf8_append, List.length_append, length_unicodeEscape, length_unicodeEscape]
      have hfour : 2 ≤ c.utf8Size := by
        by_contra hlt
        have hone : c.utf8Size = 1 := by omega
        rw [Char.utf8Size_eq_one_iff, UInt32.le_iff_toNat_le] at hone
        have hval : c.toNat ≤ 127 := hone
        omega
      omega

section size

variable (escape : Char → List Char) (sep : Separators)

/-- The number of bytes of the text of a value. -/
def sizeWith (value : Json) : Nat := (utf8 (dumpsWith escape sep value)).length

/-- A field is not longer than the fields of its object. -/
lemma sizeWith_le_of_mem {fields : List (String × Json)} {name : String} {value : Json}
    (h : (name, value) ∈ fields) :
    sizeWith escape sep value ≤ (utf8 (dumpsFields escape sep fields)).length := by
  induction fields with
  | nil => cases h
  | cons f rest ih =>
      obtain ⟨name', value'⟩ := f
      unfold sizeWith at ih ⊢
      cases rest with
      | nil =>
          cases List.mem_singleton.mp h
          simp only [dumpsFields, utf8_append, List.length_append]
          omega
      | cons next rest =>
          rw [dumpsFields]
          · simp only [utf8_append, List.length_append]
            rcases List.mem_cons.mp h with heq | hrest
            · cases heq
              omega
            · have hle := ih hrest
              omega
          · exact List.cons_ne_nil _ _

/-- A part of an object is not longer than the object. -/
lemma sizeWith_get?_le {value part : Json} {name : String} (h : value.get? name = some part) :
    sizeWith escape sep part ≤ sizeWith escape sep value := by
  cases value with
  | obj fields =>
      obtain ⟨l₁, l₂, hfields, -⟩ := List.lookup_eq_some_iff.mp h
      have hmem : (name, part) ∈ fields := by simp [hfields]
      have hle := sizeWith_le_of_mem escape sep hmem
      unfold sizeWith at hle ⊢
      rw [dumpsWith, List.cons_append, length_utf8_cons, utf8_append, List.length_append]
      omega
  | _ => cases h

lemma sizeWith_null : sizeWith escape sep null = 4 := rfl

lemma sizeWith_field_le (value : Json) (name : String) :
    sizeWith escape sep (value.field name) ≤ sizeWith escape sep value + 4 := by
  unfold field
  cases h : value.get? name with
  | none =>
      change sizeWith escape sep null ≤ _
      rw [sizeWith_null]
      omega
  | some part => exact (sizeWith_get?_le escape sep h).trans (Nat.le_add_right _ _)

variable {escape sep}

/-- A text of at most `k` digits. -/
lemma sizeWith_nat_le {n k : Nat} (hk : 0 < k) (h : n < 10 ^ k) :
    sizeWith escape sep (.int n) ≤ 4 * k := by
  have hlen := Nat.repr_length n k hk h
  refine (length_utf8_le _).trans (Nat.mul_le_mul_left 4 ?_)
  change (Nat.repr n).toList.length ≤ k
  rwa [String.length_toList]

variable (hescape : Escapes escape) (hsep : sep.Short)
include hescape

lemma length_flatMap_le (text : List Char) :
    (utf8 (text.flatMap escape)).length ≤ 6 * (utf8 text).length := by
  induction text with
  | nil => simp [utf8]
  | cons c rest ih =>
      have hc := hescape c
      rw [List.flatMap_cons, utf8_append, List.length_append, length_utf8_cons]
      omega

lemma length_dumpsString_le (s : String) :
    (utf8 (dumpsString escape s)).length ≤ 6 * (utf8 s.toList).length + 2 := by
  have hbody := length_flatMap_le hescape s.toList
  have hquote : '"'.utf8Size = 1 := by decide
  unfold dumpsString
  rw [List.cons_append, length_utf8_cons, utf8_append, List.length_append, hquote]
  change 1 + (_ + 1) ≤ _
  omega

lemma sizeWith_str_le (s : String) :
    sizeWith escape sep (.str s) ≤ 6 * (utf8 s.toList).length + 2 := by
  unfold sizeWith
  rw [dumpsWith]
  exact length_dumpsString_le hescape s

include hsep

/-- The first field of an object, and the others. -/
lemma length_dumpsFields_cons_le (name : String) (value : Json) (rest : List (String × Json)) :
    (utf8 (dumpsFields escape sep ((name, value) :: rest))).length ≤
      6 * (utf8 name.toList).length + 6 + sizeWith escape sep value +
        (utf8 (dumpsFields escape sep rest)).length := by
  have hname := length_dumpsString_le hescape name
  obtain ⟨hitem, hkey⟩ := hsep
  unfold sizeWith
  cases rest with
  | nil =>
      simp only [dumpsFields, utf8_append, List.length_append]
      omega
  | cons next rest =>
      rw [dumpsFields]
      · simp only [utf8_append, List.length_append]
        omega
      · exact List.cons_ne_nil _ _

omit hescape hsep in
lemma sizeWith_obj (fields : List (String × Json)) :
    sizeWith escape sep (.obj fields) = 2 + (utf8 (dumpsFields escape sep fields)).length := by
  have hbrace : '{'.utf8Size = 1 := by decide
  unfold sizeWith
  rw [dumpsWith, List.cons_append, length_utf8_cons, utf8_append, List.length_append, hbrace]
  change 1 + (_ + 1) = _
  omega

/-- An object is bounded field by field. -/
lemma sizeWith_obj_cons_le {name : String} {value : Json} {rest : List (String × Json)} {b c : Nat}
    (hname : (utf8 name.toList).length ≤ 64) (hvalue : sizeWith escape sep value ≤ b)
    (hrest : sizeWith escape sep (.obj rest) ≤ c) :
    sizeWith escape sep (.obj ((name, value) :: rest)) ≤ 390 + b + c := by
  have hcons := length_dumpsFields_cons_le hescape hsep name value rest
  rw [sizeWith_obj] at hrest ⊢
  omega

omit hescape hsep in
lemma sizeWith_obj_nil_le : sizeWith escape sep (.obj []) ≤ 2 := by
  rw [sizeWith_obj]
  rfl

omit hescape in
lemma length_dumpsItems_le (items : List Json) :
    (utf8 (dumpsItems escape sep items)).length ≤
      (items.map fun item => 2 + sizeWith escape sep item).sum := by
  induction items with
  | nil => simp [dumpsItems, utf8]
  | cons item rest ih =>
      obtain ⟨hitem, -⟩ := hsep
      rw [List.map_cons, List.sum_cons]
      cases rest with
      | nil =>
          simp only [dumpsItems, List.map_nil, List.sum_nil]
          unfold sizeWith
          omega
      | cons next rest =>
          rw [dumpsItems]
          · simp only [utf8_append, List.length_append]
            unfold sizeWith at ih ⊢
            omega
          · exact List.cons_ne_nil _ _

omit hescape in
lemma sizeWith_arr_le (items : List Json) :
    sizeWith escape sep (.arr items) ≤
      2 + (items.map fun item => 2 + sizeWith escape sep item).sum := by
  have hitems : (utf8 (dumpsItems escape sep items)).length ≤ _ := length_dumpsItems_le hsep items
  have hbracket : '['.utf8Size = 1 := by decide
  unfold sizeWith at hitems ⊢
  rw [dumpsWith, List.cons_append, length_utf8_cons, utf8_append, List.length_append, hbracket]
  change 1 + (_ + 1) ≤ _
  omega

end size

/-! ## Exact sizes

The compact text of an array or an object, field by field. -/

section exact

variable (escape : Char → List Char)

lemma length_dumpsItems_compact {items : List Json} (h : items ≠ []) :
    (utf8 (dumpsItems escape compact items)).length + 1 =
      (items.map fun item => sizeWith escape compact item + 1).sum := by
  induction items with
  | nil => exact absurd rfl h
  | cons item rest ih =>
      rw [List.map_cons, List.sum_cons]
      cases rest with
      | nil => rfl
      | cons next rest =>
          rw [← ih (List.cons_ne_nil _ _), dumpsItems]
          · simp only [utf8_append, List.length_append]
            change _ + 1 + _ + 1 = _ + 1 + (_ + 1)
            unfold sizeWith
            omega
          · exact List.cons_ne_nil _ _

lemma sizeWith_arr {items : List Json} (h : items ≠ []) :
    sizeWith escape compact (.arr items) =
      1 + (items.map fun item => sizeWith escape compact item + 1).sum := by
  have hbracket : '['.utf8Size = 1 := by decide
  rw [← length_dumpsItems_compact escape h]
  unfold sizeWith
  rw [dumpsWith, List.cons_append, length_utf8_cons, utf8_append, List.length_append, hbracket]
  change 1 + (_ + 1) = _
  omega

lemma length_dumpsFields_compact {fields : List (String × Json)} (h : fields ≠ []) :
    (utf8 (dumpsFields escape compact fields)).length + 1 =
      (fields.map fun f =>
        sizeWith escape compact (.str f.1) + sizeWith escape compact f.2 + 2).sum := by
  induction fields with
  | nil => exact absurd rfl h
  | cons f rest ih =>
      obtain ⟨name, value⟩ := f
      have hname : sizeWith escape compact (.str name) = (utf8 (dumpsString escape name)).length := by
        unfold sizeWith
        rw [dumpsWith]
      rw [List.map_cons, List.sum_cons]
      cases rest with
      | nil =>
          simp only [dumpsFields, utf8_append, List.length_append, List.map_nil, List.sum_nil, hname]
          change _ + 1 + _ + 1 = _
          unfold sizeWith
          omega
      | cons next rest =>
          rw [← ih (List.cons_ne_nil _ _), dumpsFields, hname]
          · simp only [utf8_append, List.length_append]
            change _ + 1 + _ + 1 + _ + 1 = _ + _ + 2 + (_ + 1)
            unfold sizeWith
            omega
          · exact List.cons_ne_nil _ _

lemma sizeWith_obj_compact {fields : List (String × Json)} (h : fields ≠ []) :
    sizeWith escape compact (.obj fields) = 1 + (fields.map fun f =>
      sizeWith escape compact (.str f.1) + sizeWith escape compact f.2 + 2).sum := by
  have hfields := length_dumpsFields_compact escape h
  rw [sizeWith_obj]
  omega

end exact

end Json

end AgentRuntimeOps.Lib
