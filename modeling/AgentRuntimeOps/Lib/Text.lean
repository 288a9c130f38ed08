import AgentRuntimeOps.Lib.Bytes

/-!
# Texts as code points

A text of a JSON document may hold a lone surrogate, which is no character: a `Text` is the list of
its code points.  `encode` is its UTF-8 encoding, which a surrogate does not have, and `splitlines`
its lines, which end not only with a line feed.
-/

namespace AgentRuntimeOps.Lib

/-- The code points of a text. -/
abbrev Text : Type := List Nat

namespace Text

/-- The code points of some characters. -/
def ofChars (chars : List Char) : Text := chars.map Char.toNat

/-- The code points of a literal. -/
def of (s : String) : Text := ofChars s.toList

/-- The characters of a text; `none` where one of them is a surrogate. -/
def chars? (t : Text) : Option (List Char) :=
  if t.all fun c => decide c.isValidChar then some (t.map Char.ofNat) else none

lemma chars?_eq_some_iff {t : Text} {chars : List Char} :
    t.chars? = some chars ↔ t = ofChars chars := by
  unfold chars? ofChars
  constructor
  · intro h
    split_ifs at h with hvalid
    cases h
    rw [List.map_map]
    refine ((List.map_congr_left fun c hc => ?_).trans (List.map_id t)).symm
    have hc := decide_eq_true_eq.mp (List.all_eq_true.mp hvalid c hc)
    show (Char.ofNat c).toNat = c
    unfold Char.ofNat
    rw [dif_pos hc]
    rfl
  · rintro rfl
    have hvalid : (chars.map Char.toNat).all (fun c => decide c.isValidChar) = true := by
      rw [List.all_map, List.all_eq_true]
      exact fun c _ => decide_eq_true c.valid
    rw [if_pos hvalid, List.map_map]
    exact congrArg some (List.map_id'' (fun c => Char.ofNat_toNat c) _)

/-! ## Encoding -/

/-- `str.encode("utf-8")`; `none` where it raises. -/
def encode (t : Text) : Option (List UInt8) := t.chars?.map utf8

/-- `bytes.decode("utf-8")`; `none` where it raises. -/
def decode (raw : List UInt8) : Option Text :=
  (raw.toByteArray.utf8Decode?).map fun chars => ofChars chars.toList

lemma decode_of_encode {t : Text} {raw : List UInt8} (h : t.encode = some raw) :
    decode raw = some t := by
  obtain ⟨chars, hchars, rfl⟩ := Option.map_eq_some_iff.mp h
  obtain rfl := chars?_eq_some_iff.mp hchars
  have hbytes : (utf8 chars).toByteArray = chars.utf8Encode := rfl
  unfold decode
  rw [hbytes, List.utf8Decode?_utf8Encode]
  rfl

lemma encode_append {s t : Text} {raw raw' : List UInt8} (hs : s.encode = some raw)
    (ht : t.encode = some raw') : (s ++ t).encode = some (raw ++ raw') := by
  obtain ⟨chars, hchars, rfl⟩ := Option.map_eq_some_iff.mp hs
  obtain ⟨chars', hchars', rfl⟩ := Option.map_eq_some_iff.mp ht
  rw [chars?_eq_some_iff] at hchars hchars'
  have happend : (s ++ t).chars? = some (chars ++ chars') := by
    rw [chars?_eq_some_iff, hchars, hchars']
    exact List.map_append.symm
  unfold encode
  rw [happend]
  exact congrArg some (utf8_append chars chars')

lemma encode_ofChars (chars : List Char) : (ofChars chars).encode = some (utf8 chars) := by
  unfold encode
  rw [chars?_eq_some_iff.mpr rfl]
  rfl

/-- A text of characters only can be encoded. -/
lemma exists_encode {t : Text} (h : ∀ c ∈ t, c.isValidChar) :
    ∃ raw, t.encode = some raw ∧ raw.length ≤ 4 * t.length := by
  have hchars : t.chars? = some (t.map Char.ofNat) :=
    if_pos (List.all_eq_true.mpr fun c hc => decide_eq_true (h c hc))
  refine ⟨utf8 (t.map Char.ofNat), by unfold encode; rw [hchars]; rfl, ?_⟩
  have hlength : ∀ chars : List Char, (utf8 chars).length ≤ 4 * chars.length := by
    intro chars
    induction chars with
    | nil => exact le_rfl
    | cons c chars ih =>
        have hsize : (String.utf8EncodeChar c).length ≤ 4 := by
          rw [String.length_utf8EncodeChar]
          exact c.utf8Size_le_four
        rw [show utf8 (c :: chars) = String.utf8EncodeChar c ++ utf8 chars from
          List.flatMap_cons, List.length_append, List.length_cons]
        omega
  exact (hlength _).trans_eq (by rw [List.length_map])

/-! ## Lines -/

/-- Where `str.splitlines` ends a line. -/
def isLineBreak (c : Nat) : Bool :=
  (10 ≤ c && c ≤ 13) || (28 ≤ c && c ≤ 30) || c == 0x85 || c == 0x2028 || c == 0x2029

/-- A carriage return and a line feed end one line. -/
def joinReturns : Text → Text
  | 13 :: 10 :: rest => 10 :: joinReturns rest
  | c :: rest => c :: joinReturns rest
  | [] => []

/-- `str.splitlines()` -/
def splitlines (t : Text) : List Text :=
  let pieces := t.joinReturns.splitOnP isLineBreak
  if pieces.getLast? = some [] then pieces.dropLast else pieces

lemma joinReturns_of_notMem {t : Text} (h : 13 ∉ t) : t.joinReturns = t := by
  induction t with
  | nil => rfl
  | cons c t ih =>
      have hc : c ≠ 13 := fun heq => h (heq ▸ List.mem_cons_self)
      have hrest := ih fun hmem => h (List.mem_cons_of_mem _ hmem)
      unfold joinReturns
      split
      case h_1 heq =>
        cases heq
        exact absurd rfl hc
      case h_2 heq =>
        cases heq
        rw [hrest]
      case h_3 heq => cases heq

/-- The lines of a text go up to each line feed. -/
lemma splitlines_append {s t : Text} (hs : 13 ∉ s) (ht : 13 ∉ t) :
    splitlines (s ++ 10 :: t) = s.splitOnP isLineBreak ++ splitlines t := by
  have hne : t.splitOnP isLineBreak ≠ [] := List.splitOnP_ne_nil _ _
  have hreturns : 13 ∉ s ++ 10 :: t := by simp [hs, ht]
  unfold splitlines
  rw [joinReturns_of_notMem hreturns, joinReturns_of_notMem ht,
    List.splitOnP_append_cons s t (by decide)]
  dsimp only
  rw [List.getLast?_append_of_ne_nil _ hne, List.dropLast_append_of_ne_nil hne]
  split_ifs <;> rfl

@[simp] lemma splitlines_nil : splitlines [] = [] := rfl

/-- What is not cut in front of a text belongs to its first piece. -/
lemma splitOnP_append_of_forall {p : Nat → Bool} {s t : Text} (hs : ∀ c ∈ s, p c = false) :
    ∃ first rest, t.splitOnP p = first :: rest ∧ (s ++ t).splitOnP p = (s ++ first) :: rest := by
  induction s with
  | nil =>
      obtain ⟨first, rest, h⟩ := List.exists_cons_of_ne_nil (List.splitOnP_ne_nil p t)
      exact ⟨first, rest, h, h⟩
  | cons c s ih =>
      obtain ⟨first, rest, h, happend⟩ := ih fun c hc => hs c (List.mem_cons_of_mem _ hc)
      refine ⟨first, rest, h, ?_⟩
      rw [List.cons_append, List.splitOnP_cons_eq_if_modifyHead,
        if_neg (by simp [hs c List.mem_cons_self]), happend]
      rfl

/-- No character of a piece is one at which the text is cut. -/
lemma eq_false_of_mem_splitOnP {p : Nat → Bool} {t piece : Text} (h : piece ∈ t.splitOnP p) :
    ∀ c ∈ piece, p c = false := by
  induction t generalizing piece with
  | nil =>
      rw [List.splitOnP_nil, List.mem_singleton] at h
      subst h
      exact fun c hc => absurd hc List.not_mem_nil
  | cons d t ih =>
      rw [List.splitOnP_cons_eq_if_modifyHead] at h
      obtain ⟨first, rest, hpieces⟩ := List.exists_cons_of_ne_nil (List.splitOnP_ne_nil p t)
      by_cases hd : p d = true
      · rw [if_pos hd] at h
        rcases List.mem_cons.mp h with rfl | h
        · exact fun c hc => absurd hc List.not_mem_nil
        · exact ih h
      · rw [if_neg hd, hpieces, List.modifyHead_cons] at h
        rcases List.mem_cons.mp h with rfl | h
        · intro c hc
          rcases List.mem_cons.mp hc with rfl | hc
          · exact Bool.eq_false_iff.mpr hd
          · exact ih (hpieces ▸ List.mem_cons_self) c hc
        · exact ih (hpieces ▸ List.mem_cons_of_mem _ h)

/-- A break makes further pieces. -/
lemma splitOnP_rest_ne_nil {t first : Text} {rest : List Text} {c : Nat} (hc : c ∈ t)
    (hbreak : isLineBreak c = true) (h : t.splitOnP isLineBreak = first :: rest) : rest ≠ [] := by
  rintro rfl
  obtain ⟨before, after, rfl⟩ := List.append_of_mem hc
  rw [List.splitOnP_append_cons before after hbreak] at h
  have hlength := congrArg List.length h
  have hbefore := List.length_pos_of_ne_nil (List.splitOnP_ne_nil isLineBreak before)
  have hafter := List.length_pos_of_ne_nil (List.splitOnP_ne_nil isLineBreak after)
  rw [List.length_append] at hlength
  simp only [List.length_cons, List.length_nil] at hlength
  omega

/-- The lines are the pieces, but for an empty last one. -/
lemma mem_splitlines_iff {t line : Text} (ht : 13 ∉ t) (hline : line ≠ []) :
    line ∈ t.splitlines ↔ line ∈ t.splitOnP isLineBreak := by
  unfold splitlines
  rw [joinReturns_of_notMem ht]
  dsimp only
  split_ifs with hlast
  · obtain ⟨pieces, hpieces⟩ := List.getLast?_eq_some_iff.mp hlast
    rw [hpieces, List.dropLast_concat, List.mem_append, List.mem_singleton]
    exact ⟨.inl, fun h => h.resolve_right hline⟩
  · exact Iff.rfl

/-- Lines that are joined hold what they are joined with and what they hold. -/
lemma mem_intercalate {lines : List Text} {c d : Nat} (h : c ∈ [d].intercalate lines) :
    c = d ∨ ∃ line ∈ lines, c ∈ line := by
  induction lines with
  | nil => exact absurd h List.not_mem_nil
  | cons line lines ih =>
      cases lines with
      | nil =>
          rw [List.intercalate_singleton] at h
          exact .inr ⟨line, List.mem_cons_self, h⟩
      | cons next rest =>
          rw [List.intercalate_cons_cons, List.mem_append, List.mem_append,
            List.mem_singleton] at h
          rcases h with (hline | hsame) | hrest
          · exact .inr ⟨line, List.mem_cons_self, hline⟩
          · exact .inl hsame
          · rcases ih hrest with hsame | ⟨found, hmem, hc⟩
            · exact .inl hsame
            · exact .inr ⟨found, List.mem_cons_of_mem _ hmem, hc⟩

/-- A text whose lines end with line feeds only is its pieces, joined. -/
lemma intercalate_splitOnP {t : Text} (h : ∀ c ∈ t, isLineBreak c = true → c = 10) :
    [10].intercalate (t.splitOnP isLineBreak) = t := by
  have hsplit : t.splitOnP isLineBreak = t.splitOn 10 := by
    rw [List.splitOn_eq_splitOnP]
    induction t with
    | nil => rfl
    | cons c t ih =>
        have hc : isLineBreak c = (c == 10) := by
          rw [Bool.eq_iff_iff, beq_iff_eq]
          exact ⟨h c List.mem_cons_self, fun heq => by rw [heq]; rfl⟩
        rw [List.splitOnP_cons_eq_if_modifyHead, List.splitOnP_cons_eq_if_modifyHead, hc,
          ih fun d hd => h d (List.mem_cons_of_mem _ hd)]
  rw [hsplit, List.intercalate_splitOn]

/-! ## Kinds of code points -/

/-- `str.isspace` -/
def isSpace (c : Nat) : Bool :=
  (9 ≤ c && c ≤ 13) || (28 ≤ c && c ≤ 32) || c == 0x85 || c == 0xa0 || c == 0x1680 ||
    (0x2000 ≤ c && c ≤ 0x200a) || c == 0x2028 || c == 0x2029 || c == 0x202f || c == 0x205f ||
    c == 0x3000

/-- `str.strip()` -/
def strip (t : Text) : Text := ((t.dropWhile isSpace).reverse.dropWhile isSpace).reverse

/-- The category `Cc`. -/
def isControl (c : Nat) : Bool := c ≤ 31 || (127 ≤ c && c ≤ 159)

/-- The category `Cs`: the code points that are no characters. -/
def isSurrogate (c : Nat) : Bool := !decide c.isValidChar

/-- The ranges of the category `Cf`. -/
def formatRanges : List (Nat × Nat) := [
  (0xad, 0xad), (0x600, 0x605), (0x61c, 0x61c), (0x6dd, 0x6dd), (0x70f, 0x70f), (0x890, 0x891),
  (0x8e2, 0x8e2), (0x180e, 0x180e), (0x200b, 0x200f), (0x202a, 0x202e), (0x2060, 0x2064),
  (0x2066, 0x206f), (0xfeff, 0xfeff), (0xfff9, 0xfffb), (0x110bd, 0x110bd), (0x110cd, 0x110cd),
  (0x13430, 0x1343f), (0x1bca0, 0x1bca3), (0x1d173, 0x1d17a), (0xe0001, 0xe0001),
  (0xe0020, 0xe007f)]

/-- The category `Cf`. -/
def isFormat (c : Nat) : Bool := formatRanges.any fun range => range.1 ≤ c && c ≤ range.2

end Text

end AgentRuntimeOps.Lib
