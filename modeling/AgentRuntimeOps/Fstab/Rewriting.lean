import AgentRuntimeOps.Fstab.Basic

/-!
# What the loops leave

The writers put their pair in the place of the first marker, or behind the lines, and let pass what
is neither a marker nor behind one (`stampedLines_eq`).
-/

namespace AgentRuntimeOps.Fstab

open Lib Stamps

/-! ## Lines that pass -/

section passing

variable (owns claimed : Text → Bool)

/-- What a writer makes of a line, by the lines that own its mountpoint and those it may claim. -/
def keepBy (line : Text) : Option Text :=
  if owns line then if claimed line then some (disabledPrefix ++ line) else none else some line

/-- A line with which a writer raises. -/
def blocks (line : Text) : Bool := owns line && !claimed line

/-- What it makes of any other line. -/
def disabled (line : Text) : Text :=
  if owns line && claimed line then disabledPrefix ++ line else line

variable {owns claimed} {marker entry line : Text} {lines front rest : List Text}

lemma keepBy_of_blocks (h : blocks owns claimed line = true) : keepBy owns claimed line = none := by
  unfold blocks at h
  simp only [Bool.and_eq_true, Bool.not_eq_true'] at h
  unfold keepBy
  rw [if_pos h.1, if_neg (by simp [h.2])]

lemma keepBy_of_not_blocks (h : blocks owns claimed line = false) :
    keepBy owns claimed line = some (disabled owns claimed line) := by
  unfold blocks at h
  unfold keepBy disabled
  cases howns : owns line with
  | false => rfl
  | true =>
      rw [howns, Bool.true_and, Bool.not_eq_false'] at h
      rw [h]
      rfl

/-- A writer raises at the first line that blocks it. -/
lemma rewriteLines_of_blocks (h : ∃ line ∈ kept marker lines, blocks owns claimed line = true)
    (replaced : Bool) :
    rewriteLines marker entry (keepBy owns claimed) false replaced lines = none := by
  fun_induction kept marker lines generalizing replaced with
  | case1 next rest ih =>
      have hrest := ih h true
      rw [rewriteLines, if_pos rfl, rewriteLines, hrest]
      rfl
  | case2 line next rest hne ih =>
      rw [rewriteLines, if_neg hne]
      cases hblocks : blocks owns claimed line with
      | true =>
          rw [keepBy_of_blocks hblocks]
          rfl
      | false =>
          obtain ⟨found, hfound, hfoundBlocks⟩ := h
          obtain rfl | hfound := List.mem_cons.mp hfound
          · rw [hblocks] at hfoundBlocks
            cases hfoundBlocks
          · rw [keepBy_of_not_blocks hblocks, ih ⟨found, hfound, hfoundBlocks⟩]
            rfl
  | case3 => exact absurd h (by simp)
  | case4 line hne =>
      obtain ⟨found, hfound, hblocks⟩ := h
      obtain rfl := List.mem_singleton.mp hfound
      rw [rewriteLines, if_neg hne, keepBy_of_blocks hblocks]
      rfl
  | case5 => exact absurd h (by simp)

/-- Where no line blocks, the loop keeps the lines that are neither a marker nor behind one. -/
lemma rewriteLines_of_replaced (h : ∀ line ∈ kept marker lines, blocks owns claimed line = false) :
    rewriteLines marker entry (keepBy owns claimed) false true lines =
      some ((kept marker lines).map (disabled owns claimed), true) := by
  fun_induction kept marker lines with
  | case1 next rest ih =>
      rw [rewriteLines, if_pos rfl, rewriteLines, ih h]
      rfl
  | case2 line next rest hne ih =>
      rw [rewriteLines, if_neg hne, keepBy_of_not_blocks (h line List.mem_cons_self),
        ih fun l hl => h l (List.mem_cons_of_mem _ hl)]
      rfl
  | case3 =>
      rw [rewriteLines, if_pos rfl]
      rfl
  | case4 line hne =>
      rw [rewriteLines, if_neg hne, keepBy_of_not_blocks (h line List.mem_cons_self)]
      rfl
  | case5 => rfl

/-- The loop before the first marker. -/
lemma rewriteLines_of_notMem (hmarker : marker ∉ lines)
    (h : ∀ line ∈ lines, blocks owns claimed line = false) :
    rewriteLines marker entry (keepBy owns claimed) false false lines =
      some (lines.map (disabled owns claimed), false) := by
  induction lines with
  | nil => rfl
  | cons line lines ih =>
      have hne : line ≠ marker := fun heq => hmarker (heq ▸ List.mem_cons_self)
      rw [rewriteLines, if_neg hne, keepBy_of_not_blocks (h line List.mem_cons_self),
        ih (fun hmem => hmarker (List.mem_cons_of_mem _ hmem))
          fun l hl => h l (List.mem_cons_of_mem _ hl)]
      rfl

/-- The first marker and what is behind it make place for the pair. -/
lemma rewriteLines_append (hfront : marker ∉ front)
    (h : ∀ line ∈ front ++ kept marker (rest.drop 1), blocks owns claimed line = false) :
    rewriteLines marker entry (keepBy owns claimed) false false (front ++ marker :: rest) =
      some (front.map (disabled owns claimed) ++
        marker :: entry :: (kept marker (rest.drop 1)).map (disabled owns claimed), true) := by
  induction front with
  | nil =>
      have hrest : rewriteLines marker entry (keepBy owns claimed) true true rest =
          some ((kept marker (rest.drop 1)).map (disabled owns claimed), true) := by
        cases rest with
        | nil => rfl
        | cons next rest => exact rewriteLines_of_replaced h
      rw [List.nil_append, rewriteLines, if_pos rfl, hrest]
      rfl
  | cons line front ih =>
      have hne : line ≠ marker := fun heq => hfront (heq ▸ List.mem_cons_self)
      rw [List.cons_append, rewriteLines, if_neg hne,
        keepBy_of_not_blocks (h line List.mem_cons_self),
        ih (fun hmem => hfront (List.mem_cons_of_mem _ hmem))
          fun l hl => h l (List.mem_cons_of_mem _ hl)]
      rfl

/-! ## The lines of a writer -/

lemma stampedLines_of_blocks (h : ∃ line ∈ kept marker lines, blocks owns claimed line = true) :
    stampedLines marker entry (keepBy owns claimed) lines = none := by
  unfold stampedLines
  rw [rewriteLines_of_blocks h]
  rfl

/-- The pair is put in the place of the first marker. -/
lemma stampedLines_append (hfront : marker ∉ front)
    (h : ∀ line ∈ front ++ kept marker (rest.drop 1), blocks owns claimed line = false) :
    stampedLines marker entry (keepBy owns claimed) (front ++ marker :: rest) =
      some (front.map (disabled owns claimed) ++
        marker :: entry :: (kept marker (rest.drop 1)).map (disabled owns claimed)) := by
  unfold stampedLines
  rw [rewriteLines_append hfront h]
  rfl

/-- Where there is no marker, the pair is put behind the lines. -/
lemma stampedLines_of_notMem (hmarker : marker ∉ lines)
    (h : ∀ line ∈ lines, blocks owns claimed line = false) :
    stampedLines marker entry (keepBy owns claimed) lines =
      some (lines.map (disabled owns claimed) ++ separator (lines.map (disabled owns claimed)) ++
        [marker, entry]) := by
  unfold stampedLines
  rw [rewriteLines_of_notMem hmarker h]
  rfl

lemma separator_eq (lines : List Text) : separator lines = [] ∨ separator lines = [[]] := by
  unfold separator
  split_ifs
  · exact .inl rfl
  · exact .inr rfl

/-- **What a writer makes of the lines**: its pair, and what passes on both sides of it. -/
lemma stampedLines_eq (h : ∀ line ∈ kept marker lines, blocks owns claimed line = false) :
    ∃ front sep rest, stampedLines marker entry (keepBy owns claimed) lines =
        some (front ++ sep ++ marker :: entry :: rest) ∧
      front ++ rest = (kept marker lines).map (disabled owns claimed) ∧
      (sep = [] ∨ sep = [[]] ∧ rest = []) := by
  by_cases hmarker : marker ∈ lines
  · obtain ⟨front, rest, rfl, hfront⟩ := List.eq_append_cons_of_mem hmarker
    rw [kept_append hfront] at h ⊢
    refine ⟨_, [], _, ?_, List.map_append.symm, .inl rfl⟩
    rw [List.append_nil]
    exact stampedLines_append hfront h
  · rw [kept_of_notMem hmarker] at h ⊢
    refine ⟨_, separator (lines.map (disabled owns claimed)), [], stampedLines_of_notMem hmarker h,
      List.append_nil _, ?_⟩
    exact (separator_eq _).imp_right fun heq => ⟨heq, rfl⟩

end passing

/-! ## The loop of a removal -/

lemma removeLines_eq (marker : Text) (lines : List Text) :
    removeLines marker false lines = (kept marker lines, decide (marker ∈ lines)) := by
  fun_induction kept marker lines with
  | case1 next rest ih =>
      rw [removeLines, if_pos rfl, removeLines, ih]
      simp
  | case2 line next rest hne ih =>
      rw [removeLines, if_neg hne, ih]
      simp [List.mem_cons, Ne.symm hne]
  | case3 =>
      rw [removeLines, if_pos rfl]
      simp [removeLines]
  | case4 line hne =>
      rw [removeLines, if_neg hne]
      simp [removeLines, Ne.symm hne]
  | case5 => simp [removeLines]

end AgentRuntimeOps.Fstab
