import Mathlib.Data.List.DropRight
import Mathlib.Tactic

/-!
# URL-safe base64

`base64.urlsafe_b64encode` and `base64.urlsafe_b64decode`.  The decoder passes over the bits of the
last character that belong to no byte, so that several texts stand for the same bytes.
-/

namespace AgentRuntimeOps.Lib

namespace Base64

/-- The characters for 0 to 63. -/
def alphabet : List Char :=
  "ABCDEFGHIJKLMNOPQRSTUVWXYZabcdefghijklmnopqrstuvwxyz0123456789-_".toList

def charOf (n : Nat) : Char := alphabet.getD n 'A'

/-- The value of a character; the decoder also knows the characters of the standard alphabet. -/
def valueOf (c : Char) : Option Nat :=
  if c = '+' then some 62 else if c = '/' then some 63 else alphabet.idxOf? c

/-- The table is read in both directions, and the padding is not in it. -/
lemma table_checked :
    ((List.range 64).all fun n => valueOf (charOf n) == some n && alphabet.contains (charOf n)) =
        true ∧
      (alphabet.all fun c => (valueOf c).any (fun n => decide (n < 64) && charOf n == c) &&
        c != '=') = true := by
  decide

lemma valueOf_charOf {n : Nat} (h : n < 64) : valueOf (charOf n) = some n := by
  have hn := List.all_eq_true.mp table_checked.1 n (List.mem_range.mpr h)
  exact beq_iff_eq.mp (Bool.and_eq_true_iff.mp hn).1

lemma charOf_mem {n : Nat} (h : n < 64) : charOf n ∈ alphabet := by
  have hn := List.all_eq_true.mp table_checked.1 n (List.mem_range.mpr h)
  exact List.contains_iff_mem.mp (Bool.and_eq_true_iff.mp hn).2

lemma exists_valueOf {c : Char} (h : c ∈ alphabet) :
    ∃ n < 64, valueOf c = some n ∧ charOf n = c := by
  have hc := List.all_eq_true.mp table_checked.2 c h
  obtain ⟨n, hvalue, hn⟩ := (Option.any_eq_true _ _).mp (Bool.and_eq_true_iff.mp hc).1
  simp only [Bool.and_eq_true, decide_eq_true_eq, beq_iff_eq] at hn
  exact ⟨n, hn.1, hvalue, hn.2⟩

/-- No character of the alphabet is the padding. -/
lemma ne_padding_of_mem {c : Char} (h : c ∈ alphabet) : c ≠ '=' := by
  have hc := List.all_eq_true.mp table_checked.2 c h
  exact bne_iff_ne.mp (Bool.and_eq_true_iff.mp hc).2

/-! ## Encoding -/

/-- The values of the characters for some bytes. -/
def sextets : List UInt8 → List Nat
  | a :: b :: c :: rest =>
      a.toNat / 4 :: (a.toNat % 4 * 16 + b.toNat / 16) :: (b.toNat % 16 * 4 + c.toNat / 64) ::
        (c.toNat % 64) :: sextets rest
  | [a, b] => [a.toNat / 4, a.toNat % 4 * 16 + b.toNat / 16, b.toNat % 16 * 4]
  | [a] => [a.toNat / 4, a.toNat % 4 * 16]
  | [] => []

/-- The characters for some bytes, without padding. -/
def body (raw : List UInt8) : List Char := (sextets raw).map charOf

def padding (length : Nat) : List Char := List.replicate ((4 - length % 4) % 4) '='

/-- `base64.urlsafe_b64encode(raw)` -/
def encode (raw : List UInt8) : List Char := body raw ++ padding (body raw).length

lemma sextets_lt {raw : List UInt8} {n : Nat} (h : n ∈ sextets raw) : n < 64 := by
  fun_induction sextets raw with
  | case1 a b c rest ih =>
      have ha := a.toNat_lt
      have hb := b.toNat_lt
      have hc := c.toNat_lt
      simp only [List.mem_cons] at h
      rcases h with rfl | rfl | rfl | rfl | h
      · omega
      · omega
      · omega
      · omega
      · exact ih h
  | case2 a b =>
      have ha := a.toNat_lt
      have hb := b.toNat_lt
      simp only [List.mem_cons, List.not_mem_nil, or_false] at h
      rcases h with rfl | rfl | rfl <;> omega
  | case3 a =>
      have ha := a.toNat_lt
      simp only [List.mem_cons, List.not_mem_nil, or_false] at h
      rcases h with rfl | rfl <;> omega
  | case4 => exact absurd h List.not_mem_nil

lemma mem_alphabet_of_mem_body {raw : List UInt8} {c : Char} (h : c ∈ body raw) :
    c ∈ alphabet := by
  obtain ⟨n, hn, rfl⟩ := List.mem_map.mp h
  exact charOf_mem (sextets_lt hn)

/-- `encode(raw).rstrip("=")` -/
lemma rdropWhile_encode (raw : List UInt8) : (encode raw).rdropWhile (· = '=') = body raw := by
  have hpadding : ∀ n, (body raw ++ List.replicate n '=').rdropWhile (· = '=') =
      (body raw).rdropWhile (· = '=') := by
    intro n
    induction n with
    | zero => rw [List.replicate_zero, List.append_nil]
    | succ n ih =>
        rw [List.replicate_succ', ← List.append_assoc,
          List.rdropWhile_concat_pos _ _ _ (by simp), ih]
  unfold encode padding
  rw [hpadding]
  refine List.rdropWhile_eq_self_iff.mpr fun hne hlast => ?_
  exact ne_padding_of_mem (mem_alphabet_of_mem_body (List.getLast_mem hne)) (by simpa using hlast)

/-! ## Decoding -/

/-- The bytes that the characters of one group determine. -/
def groupBytes : List Nat → List UInt8
  | [x, y] => [UInt8.ofNat (x * 4 + y / 16)]
  | [x, y, z] => [UInt8.ofNat (x * 4 + y / 16), UInt8.ofNat (y % 16 * 16 + z / 4)]
  | [x, y, z, w] => [UInt8.ofNat (x * 4 + y / 16), UInt8.ofNat (y % 16 * 16 + z / 4),
      UInt8.ofNat (z % 4 * 64 + w)]
  | _ => []

/-- The decoder inside of a group, after `pads` signs of padding: characters outside of the alphabet
are passed over, and the padding that completes a group ends the text. -/
def decodeFrom (group : List Nat) (pads : Nat) : List Char → Option (List UInt8)
  | [] => if group = [] then some [] else none
  | c :: rest =>
      if c = '=' then
        if 2 ≤ group.length then
          if 4 ≤ group.length + (pads + 1) then some (groupBytes group)
          else decodeFrom group (pads + 1) rest
        else decodeFrom group pads rest
      else
        match valueOf c with
        | none => decodeFrom group pads rest
        | some value =>
            if group.length = 3 then
              (decodeFrom [] 0 rest).map (groupBytes (group ++ [value]) ++ ·)
            else decodeFrom (group ++ [value]) 0 rest

/-- `base64.urlsafe_b64decode(text)`; `none` where it raises. -/
def decode (text : List Char) : Option (List UInt8) := decodeFrom [] 0 text

/-- The bytes of an unpadded text over the alphabet, from the values of its characters. -/
def bytesOf : List Nat → Option (List UInt8)
  | x :: y :: z :: w :: rest => (bytesOf rest).map (groupBytes [x, y, z, w] ++ ·)
  | [_] => none
  | group => some (groupBytes group)

/-- The bits of the last character that belong to no byte are zero. -/
def unusedZero : List Nat → Bool
  | _ :: _ :: _ :: _ :: rest => unusedZero rest
  | [_, _, z] => z % 4 = 0
  | [_, y] => y % 16 = 0
  | _ => true

/-- With its padding, a text over the alphabet is read group by group. -/
lemma decode_map_charOf {values : List Nat} (h : ∀ n ∈ values, n < 64) :
    decode (values.map charOf ++ padding values.length) = bytesOf values := by
  have hstep : ∀ n < 64, ∀ group : List Nat, group.length ≠ 3 → ∀ rest,
      decodeFrom group 0 (charOf n :: rest) = decodeFrom (group ++ [n]) 0 rest := by
    intro n hn group hgroup rest
    rw [decodeFrom, if_neg (ne_padding_of_mem (charOf_mem hn)), valueOf_charOf hn]
    dsimp only
    rw [if_neg hgroup]
  unfold decode
  fun_induction bytesOf values with
  | case1 x y z w rest ih =>
      have hx := h x (by simp)
      have hy := h y (by simp)
      have hz := h z (by simp)
      have hw := h w (by simp)
      have hpadding : padding (x :: y :: z :: w :: rest).length = padding rest.length := by
        unfold padding
        rw [show (x :: y :: z :: w :: rest).length % 4 = rest.length % 4 by
          rw [List.length_cons, List.length_cons, List.length_cons, List.length_cons]; omega]
      rw [hpadding]
      simp only [List.map_cons, List.cons_append]
      rw [hstep x hx _ (by simp), hstep y hy _ (by simp), hstep z hz _ (by simp), decodeFrom,
        if_neg (ne_padding_of_mem (charOf_mem hw)), valueOf_charOf hw]
      dsimp only
      rw [show ([] ++ [x] ++ [y] ++ [z] : List Nat) = [x, y, z] from rfl,
        if_pos (show [x, y, z].length = 3 from rfl), ih fun n hn => h n (by simp [hn])]
      rfl
  | case2 x =>
      have hx := h x (by simp)
      show decodeFrom [] 0 (charOf x :: ['=', '=', '=']) = none
      rw [hstep x hx _ (by simp)]
      rfl
  | case3 values hlong hone =>
      match values, hlong, hone with
      | _ :: _ :: _ :: _ :: _, hlong, _ => exact absurd rfl (hlong _ _ _ _ _)
      | [_], _, hone => exact absurd rfl (hone _)
      | [], _, _ => rfl
      | [x, y], _, _ =>
          show decodeFrom [] 0 (charOf x :: charOf y :: ['=', '=']) = _
          rw [hstep x (h x (by simp)) _ (by simp), hstep y (h y (by simp)) _ (by simp)]
          rfl
      | [x, y, z], _, _ =>
          show decodeFrom [] 0 (charOf x :: charOf y :: charOf z :: ['=']) = _
          rw [hstep x (h x (by simp)) _ (by simp), hstep y (h y (by simp)) _ (by simp),
            hstep z (h z (by simp)) _ (by simp)]
          rfl

/-- What is encoded is decoded. -/
lemma bytesOf_sextets (raw : List UInt8) : bytesOf (sextets raw) = some raw := by
  have hbyte : ∀ {n : Nat} {a : UInt8}, n = a.toNat → UInt8.ofNat n = a := by
    rintro n a rfl
    exact UInt8.ofNat_toNat
  fun_induction sextets raw with
  | case1 a b c rest ih =>
      have ha := a.toNat_lt
      have hb := b.toNat_lt
      have hc := c.toNat_lt
      rw [bytesOf, ih, Option.map_some, groupBytes]
      rw [hbyte (a := a) (by omega), hbyte (a := b) (by omega), hbyte (a := c) (by omega)]
      rfl
  | case2 a b =>
      have ha := a.toNat_lt
      have hb := b.toNat_lt
      show some (groupBytes _) = _
      rw [groupBytes, hbyte (a := a) (by omega), hbyte (a := b) (by omega)]
  | case3 a =>
      have ha := a.toNat_lt
      show some (groupBytes _) = _
      rw [groupBytes, hbyte (a := a) (by omega)]
  | case4 => rfl

/-- Encoding what was decoded gives the text back exactly if it has no stray bits. -/
lemma sextets_eq_iff {values : List Nat} {raw : List UInt8} (h : ∀ n ∈ values, n < 64)
    (hraw : bytesOf values = some raw) : sextets raw = values ↔ unusedZero values = true := by
  have hbyte : ∀ n < 256, (UInt8.ofNat n).toNat = n :=
    fun n hn => UInt8.toNat_ofNat_of_lt' hn
  fun_induction bytesOf values generalizing raw with
  | case1 x y z w rest ih =>
      have hx := h x (by simp)
      have hy := h y (by simp)
      have hz := h z (by simp)
      have hw := h w (by simp)
      obtain ⟨tail, htail, rfl⟩ := Option.map_eq_some_iff.mp hraw
      have ih := ih (fun n hn => h n (by simp [hn])) htail
      rw [groupBytes]
      simp only [List.cons_append, List.nil_append]
      rw [sextets, hbyte _ (by omega), hbyte _ (by omega), hbyte _ (by omega), unusedZero]
      refine Iff.trans ?_ ih
      constructor
      · intro heq
        simp only [List.cons.injEq] at heq
        exact heq.2.2.2.2
      · intro heq
        rw [heq]
        simp only [List.cons.injEq, and_true]
        omega
  | case2 x => exact nomatch hraw
  | case3 values hlong hone =>
      cases hraw
      match values, hlong, hone with
      | _ :: _ :: _ :: _ :: _, hlong, _ => exact absurd rfl (hlong _ _ _ _ _)
      | [_], _, hone => exact absurd rfl (hone _)
      | [], _, _ => exact ⟨fun _ => rfl, fun _ => rfl⟩
      | [x, y], _, _ =>
          have hx := h x (by simp)
          have hy := h y (by simp)
          rw [groupBytes, sextets, hbyte _ (by omega)]
          simp only [unusedZero, List.cons.injEq, and_true, decide_eq_true_eq]
          omega
      | [x, y, z], _, _ =>
          have hx := h x (by simp)
          have hy := h y (by simp)
          have hz := h z (by simp)
          rw [groupBytes, sextets, hbyte _ (by omega), hbyte _ (by omega)]
          simp only [unusedZero, List.cons.injEq, and_true, decide_eq_true_eq]
          omega

/-- A text over the alphabet is made of the characters of some values. -/
lemma exists_values {text : List Char} (h : ∀ c ∈ text, c ∈ alphabet) :
    ∃ values : List Nat, (∀ n ∈ values, n < 64) ∧ values.map charOf = text := by
  induction text with
  | nil => exact ⟨[], fun _ h => absurd h List.not_mem_nil, rfl⟩
  | cons c text ih =>
      obtain ⟨n, hn, -, hc⟩ := exists_valueOf (h c List.mem_cons_self)
      obtain ⟨values, hvalues, hmap⟩ := ih fun c hc => h c (List.mem_cons_of_mem _ hc)
      refine ⟨n :: values, fun m hm => ?_, by rw [List.map_cons, hc, hmap]⟩
      rcases List.mem_cons.mp hm with rfl | hm
      · exact hn
      · exact hvalues m hm

lemma filterMap_valueOf {values : List Nat} (h : ∀ n ∈ values, n < 64) :
    (values.map charOf).filterMap valueOf = values := by
  induction values with
  | nil => rfl
  | cons n values ih =>
      rw [List.map_cons, List.filterMap_cons_some (valueOf_charOf (h n List.mem_cons_self)),
        ih fun n hn => h n (List.mem_cons_of_mem _ hn)]

/-- The text has no bits that belong to no byte, or they are zero. -/
def Clean (text : List Char) : Prop := unusedZero (text.filterMap valueOf) = true

instance (text : List Char) : Decidable (Clean text) := inferInstanceAs (Decidable (_ = true))

/-- The bytes of a text over the alphabet are written as the same text exactly if it is clean. -/
theorem body_eq_iff {text : List Char} {raw : List UInt8} (h : ∀ c ∈ text, c ∈ alphabet)
    (hraw : decode (text ++ padding text.length) = some raw) : body raw = text ↔ Clean text := by
  obtain ⟨values, hvalues, rfl⟩ := exists_values h
  rw [List.length_map, decode_map_charOf hvalues] at hraw
  unfold Clean
  rw [filterMap_valueOf hvalues, ← sextets_eq_iff hvalues hraw]
  constructor
  · intro heq
    have hmap := congrArg (List.filterMap valueOf) heq
    unfold body at hmap
    rwa [filterMap_valueOf fun n hn => sextets_lt hn, filterMap_valueOf hvalues] at hmap
  · intro heq
    unfold body
    rw [heq]

/-- The written bytes are read back. -/
theorem decode_body (raw : List UInt8) :
    decode (body raw ++ padding (body raw).length) = some raw := by
  unfold body
  rw [List.length_map, decode_map_charOf fun n hn => sextets_lt hn, bytesOf_sextets]

end Base64

end AgentRuntimeOps.Lib
