import AgentRuntimeOps.Fstab.Editing

/-!
# What an edit preserves

The entries that are written have six columns without blanks, so no piece of one is a marker, and a
column that is empty is all that keeps the key from finding its own entry.
-/

namespace AgentRuntimeOps.Fstab

open Lib Nas Stamps

/-! ## Columns -/

/-- An escaped text has no blank that ends a column or a line. -/
lemma escaped_free {c : Nat} {value : Text} (h : c ∈ fstabEscape value) :
    c ≠ 32 ∧ c ≠ 9 ∧ c ≠ 10 := by
  obtain ⟨d, -, hc⟩ := List.mem_flatMap.mp h
  split_ifs at hc with h₁ h₂ h₃ h₄
  · exact (by decide : ∀ c ∈ [92, 92], c ≠ 32 ∧ c ≠ 9 ∧ c ≠ 10) c hc
  · exact (by decide : ∀ c ∈ Text.of "\\040", c ≠ 32 ∧ c ≠ 9 ∧ c ≠ 10) c hc
  · exact (by decide : ∀ c ∈ Text.of "\\011", c ≠ 32 ∧ c ≠ 9 ∧ c ≠ 10) c hc
  · exact absurd hc List.not_mem_nil
  · rw [List.mem_singleton.mp hc]
    exact ⟨h₂, h₃, h₄⟩

/-- A text that can be a column. -/
def IsColumn (column : Text) : Prop := ∀ c ∈ column, c ≠ 32 ∧ c ≠ 9 ∧ c ≠ 10

instance (column : Text) : Decidable (IsColumn column) :=
  inferInstanceAs (Decidable (∀ c ∈ column, _))

lemma isColumn_escape (value : Text) : IsColumn (fstabEscape value) := fun _ => escaped_free

lemma IsColumn.append {s t : Text} (hs : IsColumn s) (ht : IsColumn t) : IsColumn (s ++ t) := by
  intro c hc
  obtain hc | hc := List.mem_append.mp hc
  · exact hs c hc
  · exact ht c hc

lemma digit_of_mem_numberText {n c : Nat} (hc : c ∈ numberText n) : 48 ≤ c ∧ c ≤ 57 := by
  unfold numberText Text.of at hc
  rw [Nat.toString_eq_ofList_toDigits, String.toList_ofList] at hc
  obtain ⟨d, hd, rfl⟩ := List.mem_map.mp hc
  have hdigit := Nat.isDigit_of_mem_toDigits (by decide) (by decide) hd
  rw [Char.isDigit_iff_toNat] at hdigit
  exact hdigit

lemma isColumn_numberText (n : Nat) : IsColumn (numberText n) := by
  intro c hc
  have hdigit := digit_of_mem_numberText hc
  omega

/-- The options are one column. -/
lemma EntryArgs.isColumn_options (args : EntryArgs) :
    IsColumn ([44].intercalate args.options) := by
  have hoption : ∀ option ∈ args.options, IsColumn option := by
    unfold EntryArgs.options
    simp only [List.forall_mem_cons, List.not_mem_nil, false_implies, implies_true, and_true]
    refine ⟨IsColumn.append (by decide) (isColumn_escape _), ?_, by decide, by decide, by decide,
      by decide, by decide, IsColumn.append (by decide) (isColumn_numberText _), by decide,
      IsColumn.append (by decide) (isColumn_numberText _), by decide,
      IsColumn.append (by decide) ?_, IsColumn.append (by decide) ?_, by decide, by decide,
      by decide⟩
    all_goals
      cases args.readWrite
      · exact (by decide)
      · exact (by decide)
  intro c hc
  obtain rfl | ⟨option, hmem, hc⟩ := Text.mem_intercalate hc
  · decide
  · exact hoption option hmem c hc

/-! ## Entries of six columns -/

section columns

variable {first second kind options : Text}

/-- An entry of fstab. -/
def columns (first second kind options : Text) : Text :=
  [32].intercalate [first, second, kind, options, [48], [48]]

/-- The columns of an entry have no blanks. -/
structure IsEntry (first second kind options : Text) : Prop where
  first : IsColumn first
  second : IsColumn second
  kind : IsColumn kind
  options : IsColumn options

lemma IsEntry.forall_mem (h : IsEntry first second kind options) :
    ∀ column ∈ [first, second, kind, options, [48], [48]], IsColumn column := by
  simp only [List.forall_mem_cons, List.not_mem_nil, false_implies, implies_true, and_true]
  exact ⟨h.first, h.second, h.kind, h.options, by decide, by decide⟩

lemma IsEntry.feedless (h : IsEntry first second kind options) :
    10 ∉ columns first second kind options := by
  intro hc
  obtain hc | ⟨column, hmem, hc⟩ := Text.mem_intercalate hc
  · exact absurd hc (by decide)
  · exact (h.forall_mem column hmem 10 hc).2.2 rfl

lemma getLast?_columns : (columns first second kind options).getLast? = some 48 := by
  have hcut : columns first second kind options =
      (first ++ 32 :: second ++ 32 :: kind ++ 32 :: options ++ [32, 48, 32]) ++ [48] := by
    simp [columns, List.intercalate_cons_cons]
  rw [hcut, List.getLast?_append]
  rfl

/-- The fields of an entry are its columns, but for the empty ones. -/
lemma IsEntry.fields (h : IsEntry first second kind options) :
    fields (columns first second kind options) =
      [first, second, kind, options, [48], [48]].filter (· ≠ []) := by
  refine Text.cut_intercalate (by decide) fun column hmem c hc => ?_
  obtain ⟨hblank, htab, -⟩ := h.forall_mem column hmem c hc
  simp [hblank, htab]

/-- Two words behind the first blank of a text are not in an entry, where neither the third nor the
fifth column is one of them. -/
lemma IsEntry.free_of_words (h : IsEntry first second kind options) (head word next tail : Text)
    (hword : IsColumn word) (hnext : IsColumn next)
    (hkind : kind ≠ word ∧ kind ≠ next) (hzero : [48] ≠ word ∧ [48] ≠ next) :
    ¬(head ++ 32 :: (word ++ 32 :: (next ++ 32 :: tail))) <:+:
      columns first second kind options := by
  rintro ⟨before, after, hcut⟩
  have hsingle : ∀ {w : Text}, IsColumn w → w.splitOnP (· == 32) = [w] := fun hw =>
    List.splitOnP_eq_singleton fun c hc => beq_eq_false_iff_ne.mpr (hw c hc).1
  have hcolumns : (columns first second kind options).splitOnP (· == 32) =
      [first, second, kind, options, [48], [48]] := by
    rw [← List.splitOn_eq_splitOnP]
    exact List.splitOn_intercalate _ (fun column hmem hc => (h.forall_mem column hmem 32 hc).1 rfl)
      (List.cons_ne_nil _ _)
  have hpieces : (columns first second kind options).splitOnP (· == 32) =
      (before ++ head).splitOnP (· == 32) ++ word :: next ::
        (tail ++ after).splitOnP (· == 32) := by
    have hassoc : before ++ (head ++ 32 :: (word ++ 32 :: (next ++ 32 :: tail))) ++ after =
        (before ++ head) ++ 32 :: (word ++ 32 :: (next ++ 32 :: (tail ++ after))) := by simp
    rw [← hcut, hassoc, List.splitOnP_append_cons _ _ (by decide),
      List.splitOnP_append_cons _ _ (by decide), List.splitOnP_append_cons _ _ (by decide),
      hsingle hword, hsingle hnext]
    rfl
  rw [hcolumns] at hpieces
  have hne : (before ++ head).splitOnP (· == 32) ≠ [] := List.splitOnP_ne_nil _ _
  rcases hfront : (before ++ head).splitOnP (· == 32) with
    _ | ⟨a, _ | ⟨b, _ | ⟨c, _ | ⟨d, _ | ⟨e, rest⟩⟩⟩⟩⟩
  · exact hne hfront
  all_goals
    rw [hfront] at hpieces
    simp only [List.cons_append, List.nil_append, List.cons.injEq] at hpieces
  · exact hkind.2 hpieces.2.2.1
  · exact hkind.1 hpieces.2.2.1
  · exact hzero.2 hpieces.2.2.2.2.1
  · exact hzero.1 hpieces.2.2.2.2.1
  · have hlength := congrArg List.length hpieces.2.2.2.2.2
    simp only [List.length_append, List.length_cons, List.length_nil] at hlength
    omega

end columns

/-! ## The writers are lawful -/

/-- A comment owns no mountpoint. -/
lemma owns_comment (args : EntryArgs) (rest : Text) : args.owns (35 :: rest) = false := by
  unfold EntryArgs.owns
  rw [List.dropWhile_cons_of_neg (by decide)]
  exact decide_eq_false fun h => h.1 rfl

lemma owns_nil (args : EntryArgs) : args.owns [] = false := by
  unfold EntryArgs.owns
  exact decide_eq_false fun h => absurd h.2 nofun

lemma isEntry_write (args : EntryArgs) : IsEntry args.escapedSource args.escapedTarget
    (Text.of "cifs") ([44].intercalate args.options) where
  first := isColumn_escape _
  second := isColumn_escape _
  kind := by decide
  options := args.isColumn_options

lemma isEntry_bind (source workspace : PathText) : IsEntry (fstabEscape source.text)
    (fstabEscape workspace.text) (Text.of "none") (Text.of "bind,nofail") where
  first := isColumn_escape _
  second := isColumn_escape _
  kind := by decide
  options := by decide

/-- The source of a share starts with two slashes, so its column is not empty. -/
lemma escapedSource_ne_nil (share : SmbShare) : fstabEscape share.source ≠ [] := by
  unfold SmbShare.source fstabEscape
  exact nofun

lemma filter_cons_ne {word : Text} {words : List Text} (h : word ≠ []) :
    (word :: words).filter (fun word => decide (word ≠ [])) =
      word :: words.filter fun word => decide (word ≠ []) :=
  List.filter_cons_of_pos (decide_eq_true h)

/-- The first option says which credentials are used. -/
lemma EntryArgs.exists_options (args : EntryArgs) :
    ∃ rest, [44].intercalate args.options = 99 :: 114 :: rest := by
  unfold EntryArgs.options
  rw [List.intercalate_cons_cons]
  exact ⟨_, rfl⟩

/-- The entry of a share is found by its key only if the mountpoint has a column. -/
lemma isEntry_write_iff (args : EntryArgs) :
    (Key.ofShare args.slot args.share).isEntry args.entry = true ↔ args.escapedTarget ≠ [] := by
  have hsource : args.escapedSource ≠ [] := escapedSource_ne_nil args.share
  obtain ⟨rest, hoptions⟩ := args.exists_options
  have hfields : fields args.entry = _ := (isEntry_write args).fields
  rw [hoptions, filter_cons_ne hsource] at hfields
  unfold Key.isEntry
  dsimp only
  rw [hfields]
  by_cases htarget : args.escapedTarget = []
  · rw [htarget]
    refine iff_of_false (fun h => ?_) fun h => h rfl
    cases (of_decide_eq_true h).2
  · rw [filter_cons_ne htarget]
    exact iff_of_true (decide_eq_true ⟨rfl, rfl⟩) htarget

/-- The entry of a workspace is found by its key only if both paths have a column. -/
lemma isEntry_bind_iff (slot : Text) (source workspace : PathText) :
    (Key.ofWorkspace slot).isEntry (bindEntry source workspace) = true ↔
      fstabEscape source.text ≠ [] ∧ fstabEscape workspace.text ≠ [] := by
  have hfields : fields (bindEntry source workspace) = _ := (isEntry_bind source workspace).fields
  unfold Key.isEntry
  dsimp only
  rw [hfields]
  by_cases hsource : fstabEscape source.text = []
  · refine iff_of_false (fun h => ?_) fun h => h.1 hsource
    rw [hsource] at h
    by_cases hworkspace : fstabEscape workspace.text = []
    · rw [hworkspace] at h
      exact absurd (of_decide_eq_true h).1 (by decide)
    · rw [List.filter_cons_of_neg (by simp), filter_cons_ne hworkspace] at h
      exact absurd (of_decide_eq_true h).1 (by simp; decide)
  · rw [filter_cons_ne hsource]
    by_cases hworkspace : fstabEscape workspace.text = []
    · refine iff_of_false (fun h => ?_) fun h => h.2 hworkspace
      rw [hworkspace] at h
      exact absurd (of_decide_eq_true h).1 (by simp; decide)
    · rw [filter_cons_ne hworkspace]
      have hbind : Text.of "bind" ∈ (Text.of "bind,nofail").splitOn 44 := by decide
      exact iff_of_true (decide_eq_true ⟨rfl, decide_eq_true hbind⟩) ⟨hsource, hworkspace⟩

/-- The words of the marker of a share. -/
lemma marker_share (slot share : Text) : managedFstabMarker slot share =
    [35] ++ 32 :: (Text.of "agent-runtime-ops" ++ 32 :: (Text.of "nas" ++
      32 :: (Text.of "slot=" ++ slot ++ (Text.of " source=" ++ share)))) := by
  unfold managedFstabMarker
  rw [List.append_assoc]
  rfl

/-- The words of the marker of a workspace. -/
lemma marker_workspace (slot : Text) : managedWorkspaceBindMarker slot =
    [35] ++ 32 :: (Text.of "agent-runtime-ops" ++ 32 :: (Text.of "nas-workspace" ++
      32 :: (Text.of "slot=" ++ slot))) := rfl

/-- The writer of a share. -/
lemma lawful_write (args : EntryArgs) (claimExisting : Bool) :
    Lawful (.write args claimExisting) args.entry where
  run _ _ := rfl
  written := rfl
  marker_free := owns_comment args _
  disabled_free _ := owns_comment args _
  blank_free := owns_nil args
  feedless := (isEntry_write args).feedless
  ends := by
    rw [show args.entry.getLast? = some 48 from getLast?_columns]
    decide
  foreign := by
    rintro piece hpiece rfl
    have hinfix : managedFstabMarker args.slot args.share.source <:+: args.entry :=
      Text.infix_of_mem_splitOnP hpiece
    exact (isEntry_write args).free_of_words [35] (Text.of "agent-runtime-ops") (Text.of "nas")
      (Text.of "slot=" ++ args.slot ++ (Text.of " source=" ++ args.share.source)) (by decide)
      (by decide) (by decide) (by decide) (by rwa [marker_share] at hinfix)
  own_entry := by
    rw [own_iff]
    refine ⟨fun ⟨hmarker, hentry, hown⟩ => ⟨hmarker, hentry, ?_⟩, fun h =>
      ⟨h.marker, h.entry, (isEntry_write_iff args).mpr (h.columns _ List.mem_cons_self)⟩⟩
    intro path hpath
    rw [List.mem_singleton.mp hpath]
    exact (isEntry_write_iff args).mp hown

/-- The writer of a workspace. -/
lemma lawful_writeWorkspace (slot : Text) (source workspace : PathText) :
    Lawful (.writeWorkspace slot source workspace) (bindEntry source workspace) where
  run _ _ := by
    show writePair _ _ some _ _ = writePair _ _ _ _ _
    rw [show keepBy (Edit.writeWorkspace slot source workspace).owns
      (Edit.writeWorkspace slot source workspace).claims = some from rfl]
    rfl
  written := rfl
  marker_free := rfl
  disabled_free _ := rfl
  blank_free := rfl
  feedless := (isEntry_bind source workspace).feedless
  ends := by
    rw [show (bindEntry source workspace).getLast? = some 48 from getLast?_columns]
    decide
  foreign := by
    rintro piece hpiece rfl
    have hinfix : managedWorkspaceBindMarker slot <:+: bindEntry source workspace :=
      Text.infix_of_mem_splitOnP hpiece
    exact (isEntry_bind source workspace).free_of_words [35] (Text.of "agent-runtime-ops")
      (Text.of "nas-workspace") (Text.of "slot=" ++ slot) (by decide) (by decide) (by decide)
      (by decide) (by rwa [marker_workspace] at hinfix)
  own_entry := by
    rw [own_iff]
    refine ⟨fun ⟨hmarker, hentry, hown⟩ => ⟨hmarker, hentry, ?_⟩, fun h =>
      ⟨h.marker, h.entry, (isEntry_bind_iff slot source workspace).mpr
        ⟨h.columns _ List.mem_cons_self, h.columns _ (List.mem_cons_of_mem _ List.mem_cons_self)⟩⟩⟩
    obtain ⟨hsource, hworkspace⟩ := (isEntry_bind_iff slot source workspace).mp hown
    intro path hpath
    obtain rfl | hpath := List.mem_cons.mp hpath
    · exact hsource
    · rw [List.mem_singleton.mp hpath]
      exact hworkspace

/-! ## All edits -/

/-- **When an edit touches the managed pairs of its key only.** -/
theorem edit_preserves_iff (edit : Edit) (fault : Fault) (fstab : Option FileText) :
    edit.Preserves fault fstab ↔ edit.Careful fault fstab := by
  cases edit with
  | write args claimExisting => exact writer_preserves_iff (lawful_write args claimExisting)
  | writeWorkspace slot source workspace =>
      exact writer_preserves_iff (lawful_writeWorkspace slot source workspace)
  | remove slot share => exact removal_preserves_iff rfl fun _ _ => rfl
  | removeWorkspace slot => exact removal_preserves_iff rfl fun _ _ => rfl

/-- A marker whose entry was taken away by hand, and the mount of the root behind it. -/
def strayMarker : FileText where
  text := Text.unlines [managedWorkspaceBindMarker (Text.of "a"),
    Text.of "UUID=1 / ext4 defaults 0 1"]
  encodes := by decide

/-- A removal takes the mount of the root along. -/
theorem stray_marker_not_preserved :
    ¬(Edit.removeWorkspace (Text.of "a")).Preserves .nowhere (some strayMarker) := by
  intro h
  rcases (removal_preserves_iff rfl fun _ _ => rfl).mp h with h | h | h | ⟨-, h⟩
  · cases h
  · cases h
  · exact h (by decide)
  · exact absurd h.paired (by decide)

end AgentRuntimeOps.Fstab
