import AgentRuntimeOps.Lib.Text

/-!
# Words and lines of a text

`str.split()` cuts a text at its blanks, and every line break is a blank.  A text file is read with
universal newlines: a carriage return ends a line like a line feed.
-/

namespace AgentRuntimeOps.Lib

namespace Text

variable {s t : Text}

/-! ## Cutting a text -/

/-- What a text and its parts on both sides of each cut satisfy, its pieces satisfy. -/
lemma forall_of_mem_splitOnP {p : Nat → Bool} {P : Text → Prop}
    (hcut : ∀ s c t, p c = true → P (s ++ c :: t) → P s ∧ P t) (h : P t) :
    ∀ piece ∈ t.splitOnP p, P piece := by
  have hlength : ∀ n, ∀ t : Text, t.length ≤ n → P t → ∀ piece ∈ t.splitOnP p, P piece := by
    intro n
    induction n with
    | zero =>
        intro t hn h piece hpiece
        rw [List.length_eq_zero_iff.mp (Nat.le_zero.mp hn), List.splitOnP_nil] at hpiece
        rw [List.mem_singleton.mp hpiece, ← List.length_eq_zero_iff.mp (Nat.le_zero.mp hn)]
        exact h
    | succ n ih =>
        intro t hn h piece hpiece
        by_cases hall : ∀ c ∈ t, p c = false
        · rw [List.splitOnP_eq_singleton hall, List.mem_singleton] at hpiece
          exact hpiece ▸ h
        · simp only [not_forall, Bool.not_eq_false] at hall
          obtain ⟨c, hc, hsep⟩ := hall
          obtain ⟨before, after, rfl⟩ := List.append_of_mem hc
          obtain ⟨hbefore, hafter⟩ := hcut before c after hsep h
          rw [List.length_append, List.length_cons] at hn
          rw [List.splitOnP_append_cons before after hsep, List.mem_append] at hpiece
          rcases hpiece with hpiece | hpiece
          · exact ih before (by omega) hbefore piece hpiece
          · exact ih after (by omega) hafter piece hpiece
  exact hlength t.length t le_rfl h

/-! ## Words -/

/-- The pieces of a text that are not empty. -/
def cut (p : Nat → Bool) (line : Text) : List Text := (line.splitOnP p).filter (· ≠ [])

lemma cut_append_cons {p : Nat → Bool} {c : Nat} (hc : p c = true) (s t : Text) :
    cut p (s ++ c :: t) = cut p s ++ cut p t := by
  unfold cut
  rw [List.splitOnP_append_cons s t hc, List.filter_append]

lemma cut_of_forall {p : Nat → Bool} {w : Text} (h : ∀ c ∈ w, p c = false) :
    cut p w = [w].filter (· ≠ []) := by
  unfold cut
  rw [List.splitOnP_eq_singleton h]

/-- Texts that are joined by what they are cut at are read back, but for the empty ones. -/
lemma cut_intercalate {p : Nat → Bool} {c : Nat} (hc : p c = true) {ws : List Text}
    (h : ∀ w ∈ ws, ∀ d ∈ w, p d = false) : cut p ([c].intercalate ws) = ws.filter (· ≠ []) := by
  induction ws with
  | nil => rfl
  | cons w ws ih =>
      have hrest := ih fun w hw => h w (List.mem_cons_of_mem _ hw)
      have hword := cut_of_forall (h w List.mem_cons_self)
      cases ws with
      | nil => rw [List.intercalate_singleton, hword]
      | cons next ws =>
          rw [List.intercalate_cons_cons, List.append_assoc, List.singleton_append,
            cut_append_cons hc, hword, hrest, ← List.filter_append]
          rfl

/-- `str.split()` -/
def words (line : Text) : List Text := (line.splitOnP isSpace).filter (· ≠ [])

/-- A word: neither empty nor cut by a blank. -/
structure IsWord (w : Text) : Prop where
  ne_nil : w ≠ []
  plain : ∀ c ∈ w, isSpace c = false

@[simp] lemma words_nil : words [] = [] := rfl

lemma isWord_of_mem_words {w line : Text} (h : w ∈ words line) : IsWord w := by
  obtain ⟨hpiece, hne⟩ := List.mem_filter.mp h
  exact ⟨of_decide_eq_true hne, eq_false_of_mem_splitOnP hpiece⟩

/-- Words with single blanks between them are read back. -/
lemma words_intercalate {ws : List Text} (h : ∀ w ∈ ws, IsWord w) :
    words ([32].intercalate ws) = ws := by
  refine (cut_intercalate (by decide) fun w hw => (h w hw).plain).trans ?_
  exact List.filter_eq_self.mpr fun w hw => decide_eq_true (h w hw).ne_nil

/-! ## Stripping -/

/-- A text without blanks is stripped already. -/
lemma strip_of_forall {t : Text} (h : ∀ c ∈ t, isSpace c = false) : t.strip = t := by
  have hdrop : ∀ s : Text, (∀ c ∈ s, isSpace c = false) → s.dropWhile isSpace = s := by
    intro s hs
    cases s with
    | nil => rfl
    | cons c s => rw [List.dropWhile_cons_of_neg (by simp [hs c List.mem_cons_self])]
  unfold strip
  rw [hdrop t h, hdrop t.reverse fun c hc => h c (List.mem_reverse.mp hc), List.reverse_reverse]

/-! ## Lines of a text file -/

/-- Every line break is a blank. -/
lemma isSpace_of_isLineBreak {c : Nat} (h : isLineBreak c = true) : isSpace c = true := by
  unfold isLineBreak at h
  unfold isSpace
  simp only [Bool.or_eq_true, Bool.and_eq_true, decide_eq_true_eq, beq_iff_eq] at h ⊢
  omega

/-- What `str.splitlines` does not cut. -/
def IsLine (line : Text) : Prop := ∀ c ∈ line, isLineBreak c = false

instance (line : Text) : Decidable (IsLine line) := inferInstanceAs (Decidable (∀ c ∈ line, _))

lemma joinReturns_cons {c : Nat} (h : c ≠ 13 ∨ t.head? ≠ some 10) :
    joinReturns (c :: t) = c :: joinReturns t := by
  rw [joinReturns]
  rintro rest rfl rfl
  exact h.elim (· rfl) (· rfl)

/-- A carriage return at the end of the first text may end a line with a line feed. -/
lemma joinReturns_append (h : s.getLast? ≠ some 13 ∨ t.head? ≠ some 10) :
    joinReturns (s ++ t) = joinReturns s ++ joinReturns t := by
  fun_induction joinReturns s with
  | case1 rest ih =>
      have hrest : rest.getLast? ≠ some 13 ∨ t.head? ≠ some 10 := by
        refine h.imp_left fun hlast hmem => hlast ?_
        rw [List.getLast?_cons, List.getLast?_cons, hmem]
        rfl
      simp only [List.cons_append, joinReturns, ih hrest]
  | case2 c rest hnot ih =>
      have hrest : rest.getLast? ≠ some 13 ∨ t.head? ≠ some 10 := by
        refine h.imp_left fun hlast hmem => hlast ?_
        rw [List.getLast?_cons, hmem]
        rfl
      rw [List.cons_append, List.cons_append, ← ih hrest]
      refine joinReturns_cons ?_
      cases rest with
      | nil => exact h.imp_left fun hlast heq => hlast (by rw [heq]; rfl)
      | cons d rest =>
          refine or_iff_not_imp_left.mpr fun hc hd => ?_
          rw [not_not] at hc
          cases hd
          exact hnot rest hc rfl
  | case3 => rfl

/-- A line feed at the end stays there. -/
lemma exists_joinReturns_newline (s : Text) : ∃ u, joinReturns (s ++ [10]) = u ++ [10] := by
  by_cases hlast : s.getLast? = some 13
  · obtain ⟨front, rfl⟩ := List.getLast?_eq_some_iff.mp hlast
    refine ⟨joinReturns front, ?_⟩
    rw [List.append_assoc, joinReturns_append (.inr (by simp))]
    rfl
  · exact ⟨joinReturns s, joinReturns_append (.inl hlast)⟩

/-- The lines of a text that ends with a line feed. -/
lemma splitlines_of_joinReturns (h : joinReturns s = t ++ [10]) :
    splitlines s = t.splitOnP isLineBreak := by
  have hsplit : (joinReturns s).splitOnP isLineBreak = t.splitOnP isLineBreak ++ [[]] := by
    rw [h, List.splitOnP_append_cons t [] (by decide), List.splitOnP_nil]
  unfold splitlines
  rw [hsplit]
  dsimp only
  rw [if_pos List.getLast?_concat, List.dropLast_concat]

/-- The lines of a text that has a line feed behind its first lines. -/
lemma splitlines_append_newline (s t : Text) :
    splitlines (s ++ 10 :: t) = splitlines (s ++ [10]) ++ splitlines t := by
  obtain ⟨u, hu⟩ := exists_joinReturns_newline s
  have hjoin : joinReturns (s ++ 10 :: t) = u ++ 10 :: joinReturns t := by
    rw [List.append_cons, joinReturns_append (.inl (by simp)), hu, List.append_assoc]
    rfl
  have hne : (joinReturns t).splitOnP isLineBreak ≠ [] := List.splitOnP_ne_nil _ _
  rw [splitlines_of_joinReturns hu]
  unfold splitlines
  rw [hjoin, List.splitOnP_append_cons u _ (by decide)]
  dsimp only
  rw [List.getLast?_append_of_ne_nil _ hne, List.dropLast_append_of_ne_nil hne]
  split_ifs <;> rfl

end Text

end AgentRuntimeOps.Lib
