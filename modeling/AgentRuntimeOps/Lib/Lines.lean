import AgentRuntimeOps.Lib.Words

/-!
# Lines of a text file

A file is made of lines, each of them ended by a line feed.  `unlines` puts lines into a file and
`fileLines` gets them back; `str.splitlines` gets them back too, if no line holds a character that
it takes for the end of a line.
-/

namespace AgentRuntimeOps.Lib

namespace Text

variable {s t line : Text} {lines : List Text}

/-! ## Lines that line feeds end -/

/-- `"\n".join(lines) + "\n"` -/
def unlines (lines : List Text) : Text := [10].intercalate lines ++ [10]

/-- The lines of a file; behind the last line feed there is none. -/
def fileLines (t : Text) : List Text :=
  if (t.splitOn 10).getLast? = some [] then (t.splitOn 10).dropLast else t.splitOn 10

lemma unlines_cons_cons (line next : Text) (rest : List Text) :
    unlines (line :: next :: rest) = line ++ 10 :: unlines (next :: rest) := by
  unfold unlines
  rw [List.intercalate_cons_cons, List.append_assoc, List.append_assoc]
  rfl

lemma mem_unlines_iff {c : Nat} : c ∈ unlines lines ↔ c = 10 ∨ ∃ line ∈ lines, c ∈ line := by
  induction lines with
  | nil => simp [unlines]
  | cons line lines ih =>
      cases lines with
      | nil => simp [unlines, or_comm]
      | cons next rest =>
          rw [unlines_cons_cons, List.mem_append, List.mem_cons, ih]
          simp only [List.exists_mem_cons_iff]
          tauto

/-- The pieces of a text are parts of it. -/
lemma subset_of_mem_splitOnP {p : Nat → Bool} (h : line ∈ t.splitOnP p) : line ⊆ t := by
  refine forall_of_mem_splitOnP (P := (· ⊆ t)) (fun s c rest _ hcut => ?_) (List.Subset.refl t) _ h
  exact ⟨fun d hd => hcut (List.mem_append_left _ hd),
    fun d hd => hcut (List.mem_append_right _ (List.mem_cons_of_mem _ hd))⟩

lemma mem_splitOn_of_mem_fileLines (h : line ∈ fileLines t) : line ∈ t.splitOn 10 := by
  unfold fileLines at h
  split_ifs at h
  · exact List.mem_of_mem_dropLast h
  · exact h

lemma subset_of_mem_fileLines (h : line ∈ fileLines t) : line ⊆ t := by
  have hpiece := mem_splitOn_of_mem_fileLines h
  rw [List.splitOn_eq_splitOnP] at hpiece
  exact subset_of_mem_splitOnP hpiece

lemma not_mem_of_mem_fileLines (h : line ∈ fileLines t) : 10 ∉ line := by
  have hpiece := mem_splitOn_of_mem_fileLines h
  rw [List.splitOn_eq_splitOnP] at hpiece
  intro hmem
  exact absurd (eq_false_of_mem_splitOnP hpiece 10 hmem) (by decide)

/-- The characters of a file are those of its lines, and line feeds. -/
lemma exists_mem_fileLines {c : Nat} (hc : c ∈ t) (hne : c ≠ 10) : ∃ line ∈ fileLines t, c ∈ line := by
  have hjoin : c ∈ [10].intercalate (t.splitOn 10) := by rwa [List.intercalate_splitOn]
  obtain heq | ⟨line, hline, hmem⟩ := mem_intercalate hjoin
  · exact absurd heq hne
  unfold fileLines
  split_ifs with hlast
  · obtain ⟨pieces, hpieces⟩ := List.getLast?_eq_some_iff.mp hlast
    rw [hpieces, List.mem_append, List.mem_singleton] at hline
    rw [hpieces, List.dropLast_concat]
    obtain hline | rfl := hline
    · exact ⟨line, hline, hmem⟩
    · cases hmem
  · exact ⟨line, hline, hmem⟩

/-- All lines of a file are lines for `str.splitlines` if only line feeds end them. -/
lemma forall_isLine_iff :
    (∀ line ∈ fileLines t, IsLine line) ↔ ∀ c ∈ t, isLineBreak c = true → c = 10 := by
  constructor
  · intro h c hc hbreak
    by_contra hne
    obtain ⟨line, hline, hmem⟩ := exists_mem_fileLines hc hne
    rw [h line hline c hmem] at hbreak
    cases hbreak
  · intro h line hline c hc
    by_contra hbreak
    rw [Bool.not_eq_false] at hbreak
    have heq := h c (subset_of_mem_fileLines hline hc) hbreak
    exact not_mem_of_mem_fileLines hline (heq ▸ hc)

/-- A cut behind the last line feed. -/
lemma fileLines_append_newline (hs : 10 ∉ s) : fileLines (s ++ 10 :: t) = s :: fileLines t := by
  have hsplit : (s ++ 10 :: t).splitOn 10 = s :: t.splitOn 10 := by
    rw [List.splitOn_eq_splitOnP, List.splitOn_eq_splitOnP,
      List.splitOnP_append_cons s t (by decide), List.splitOnP_eq_singleton]
    · rfl
    · exact fun c hc => beq_eq_false_iff_ne.mpr fun heq => hs (heq ▸ hc)
  obtain ⟨first, rest, hpieces⟩ := List.exists_cons_of_ne_nil (List.splitOn_ne_nil 10 t)
  unfold fileLines
  rw [hsplit, hpieces, List.getLast?_cons_cons, List.dropLast_cons_cons]
  split_ifs <;> rfl

/-- The lines that are written are those of the file. -/
lemma fileLines_unlines (hne : lines ≠ []) (h : ∀ line ∈ lines, 10 ∉ line) :
    fileLines (unlines lines) = lines := by
  induction lines with
  | nil => exact absurd rfl hne
  | cons line lines ih =>
      have hline := h line List.mem_cons_self
      cases lines with
      | nil =>
          change fileLines ([10].intercalate [line] ++ [10]) = _
          rw [List.intercalate_singleton, fileLines_append_newline hline]
          rfl
      | cons next rest =>
          rw [unlines_cons_cons, fileLines_append_newline hline,
            ih (List.cons_ne_nil _ _) fun l hl => h l (List.mem_cons_of_mem _ hl)]

@[simp] lemma fileLines_unlines_nil : fileLines (unlines []) = [[]] := rfl

/-! ## Lines of `str.splitlines` -/

lemma IsLine.not_mem (h : IsLine line) {c : Nat} (hc : isLineBreak c = true) : c ∉ line :=
  fun hmem => absurd (h c hmem) (by rw [hc]; decide)

lemma splitOnP_of_isLine (h : IsLine line) : line.splitOnP isLineBreak = [line] :=
  List.splitOnP_eq_singleton h

/-- What is read are lines. -/
lemma isLine_of_mem_splitlines (h : line ∈ t.splitlines) : IsLine line := by
  unfold splitlines at h
  dsimp only at h
  split_ifs at h
  · exact eq_false_of_mem_splitOnP (List.mem_of_mem_dropLast h)
  · exact eq_false_of_mem_splitOnP h

lemma joinReturns_subset (t : Text) : t.joinReturns ⊆ t := by
  fun_induction joinReturns t with
  | case1 rest ih =>
      refine List.cons_subset.mpr ⟨by simp, fun c hc => ?_⟩
      exact List.mem_cons_of_mem _ (List.mem_cons_of_mem _ (ih hc))
  | case2 c rest hne ih => exact List.cons_subset_cons _ ih
  | case3 => exact List.Subset.refl _

/-- The lines that are read are parts of the text. -/
lemma subset_of_mem_splitlines (h : line ∈ t.splitlines) : line ⊆ t := by
  unfold splitlines at h
  dsimp only at h
  refine List.Subset.trans ?_ (joinReturns_subset t)
  split_ifs at h
  · exact subset_of_mem_splitOnP (List.mem_of_mem_dropLast h)
  · exact subset_of_mem_splitOnP h

/-- Where only line feeds end lines, `str.splitlines` returns the lines of the file. -/
lemma splitlines_eq_fileLines (h : ∀ c ∈ t, isLineBreak c = true → c = 10) :
    splitlines t = fileLines t := by
  have hreturn : 13 ∉ t := fun hmem => absurd (h 13 hmem rfl) (by decide)
  have hsplit : t.splitOnP isLineBreak = t.splitOn 10 := by
    rw [List.splitOn_eq_splitOnP]
    induction t with
    | nil => rfl
    | cons c t ih =>
        have hc : isLineBreak c = (c == 10) := by
          rw [Bool.eq_iff_iff, beq_iff_eq]
          exact ⟨h c List.mem_cons_self, fun heq => by rw [heq]; rfl⟩
        rw [List.splitOnP_cons_eq_if_modifyHead, List.splitOnP_cons_eq_if_modifyHead, hc,
          ih (fun d hd => h d (List.mem_cons_of_mem _ hd))
            fun hmem => hreturn (List.mem_cons_of_mem _ hmem)]
  unfold splitlines fileLines
  rw [joinReturns_of_notMem hreturn, hsplit]

/-- The lines that are written are read. -/
lemma splitlines_unlines (hne : lines ≠ []) (h : ∀ line ∈ lines, IsLine line) :
    (unlines lines).splitlines = lines := by
  rw [splitlines_eq_fileLines, fileLines_unlines hne fun line hline => (h line hline).not_mem rfl]
  intro c hc hbreak
  obtain heq | ⟨line, hline, hmem⟩ := mem_unlines_iff.mp hc
  · exact heq
  · exact absurd hmem ((h line hline).not_mem hbreak)

/-- A file that is read is read line by line. -/
lemma splitlines_unlines_eq (hne : lines ≠ []) :
    (unlines lines).splitlines = lines.flatMap fun line => splitlines (line ++ [10]) := by
  induction lines with
  | nil => exact absurd rfl hne
  | cons line lines ih =>
      cases lines with
      | nil =>
          unfold unlines
          rw [List.intercalate_singleton, List.flatMap_singleton]
      | cons next rest =>
          rw [unlines_cons_cons, splitlines_append_newline, ih (List.cons_ne_nil _ _)]
          rfl

lemma joinReturns_of_notMem_newline (h : 10 ∉ t) : t.joinReturns = t := by
  induction t with
  | nil => rfl
  | cons c t ih =>
      have hhead : t.head? ≠ some 10 := fun hhead =>
        h (List.mem_cons_of_mem _ (List.mem_of_mem_head? hhead))
      rw [joinReturns_cons (.inr hhead), ih fun hmem => h (List.mem_cons_of_mem _ hmem)]

/-- What a line is read as that does not end with a carriage return. -/
lemma splitlines_newline (h : 10 ∉ line) (hlast : line.getLast? ≠ some 13) :
    splitlines (line ++ [10]) = line.splitOnP isLineBreak := by
  refine splitlines_of_joinReturns ?_
  rw [joinReturns_append (.inl hlast), joinReturns_of_notMem_newline h]
  rfl

lemma splitlines_newline_of_isLine (h : IsLine line) : splitlines (line ++ [10]) = [line] := by
  have hlast : line.getLast? ≠ some 13 := fun hlast =>
    h.not_mem (c := 13) rfl (List.mem_of_mem_getLast? hlast)
  rw [splitlines_newline (h.not_mem rfl) hlast, splitOnP_of_isLine h]

/-- A line that a line feed ends is read as something. -/
lemma splitlines_newline_ne_nil (line : Text) : splitlines (line ++ [10]) ≠ [] := by
  obtain ⟨u, hu⟩ := exists_joinReturns_newline line
  rw [splitlines_of_joinReturns hu]
  exact List.splitOnP_ne_nil _ _

/-- A line of the file that `str.splitlines` does not split is read. -/
lemma mem_splitlines_of_mem_fileLines (hline : IsLine line) (h : line ∈ fileLines t) :
    line ∈ t.splitlines := by
  have hlength : ∀ n, ∀ t : Text, t.length ≤ n → line ∈ fileLines t → line ∈ t.splitlines := by
    intro n
    induction n with
    | zero =>
        intro t hn h
        rw [List.length_eq_zero_iff.mp (Nat.le_zero.mp hn)] at h
        exact absurd h List.not_mem_nil
    | succ n ih =>
        intro t hn h
        by_cases hfeed : 10 ∈ t
        · obtain ⟨s, u, rfl, hs⟩ := List.eq_append_cons_of_mem hfeed
          rw [fileLines_append_newline hs] at h
          rw [splitlines_append_newline, List.mem_append]
          rw [List.length_append, List.length_cons] at hn
          obtain rfl | h := List.mem_cons.mp h
          · rw [splitlines_newline_of_isLine hline]
            exact .inl (List.mem_singleton_self _)
          · exact .inr (ih u (by omega) h)
        · have hsingle : t.splitOn 10 = [t] := by
            rw [List.splitOn_eq_splitOnP, List.splitOnP_eq_singleton]
            exact fun c hc => beq_eq_false_iff_ne.mpr fun heq => hfeed (heq ▸ hc)
          have hpiece := mem_splitOn_of_mem_fileLines h
          rw [hsingle, List.mem_singleton] at hpiece
          subst hpiece
          have hbreaks : ∀ c ∈ line, isLineBreak c = true → c = 10 := fun c hc hbreak =>
            absurd hc (hline.not_mem hbreak)
          rwa [splitlines_eq_fileLines hbreaks]
  exact hlength _ t le_rfl h

/-- The pieces of a text stand in it. -/
lemma infix_of_mem_splitOnP {p : Nat → Bool} (h : line ∈ t.splitOnP p) : line <:+: t := by
  refine forall_of_mem_splitOnP (P := (· <:+: t)) (fun s c rest _ hcut => ?_) List.infix_rfl _ h
  obtain ⟨before, after, rfl⟩ := hcut
  exact ⟨⟨before, c :: (rest ++ after), by simp⟩, ⟨before ++ s ++ [c], after, by simp⟩⟩

/-! ## Files that can be written -/

lemma encode_isSome_iff : t.encode.isSome = true ↔ ∀ c ∈ t, c.isValidChar := by
  unfold encode chars?
  rw [Option.isSome_map]
  by_cases hall : t.all (fun c => decide c.isValidChar) = true
  · rw [if_pos hall]
    exact iff_of_true rfl fun c hc => of_decide_eq_true (List.all_eq_true.mp hall c hc)
  · rw [if_neg hall]
    refine iff_of_false nofun fun h => hall ?_
    exact List.all_eq_true.mpr fun c hc => decide_eq_true (h c hc)

end Text

end AgentRuntimeOps.Lib
