import AgentRuntimeOps.Fstab.Rewriting

/-!
# Edits of managed pairs

An edit of a key may touch the pairs of the key only.  `edit_preserves_iff` says when it does: an
editor takes the line behind a marker along, whatever it is, and it splits lines where a line feed
does not.
-/

namespace AgentRuntimeOps.Fstab

open Lib Nas Stamps

/-! ## Keys -/

/-- The fields of a line, as blanks and tabs cut it. -/
def fields (line : Text) : List Text := line.cut fun c => c == 32 || c == 9

/-- Whose a pair is: a share of a slot, or the workspace of a slot. -/
inductive Key where
  | ofShare (slot : Text) (share : SmbShare)
  | ofWorkspace (slot : Text)

namespace Key

/-- The marker of the key. -/
def marker : Key → Text
  | ofShare slot share => managedFstabMarker slot share.source
  | ofWorkspace slot => managedWorkspaceBindMarker slot

/-- The line is an entry of the key: a mount of the share, or a bind. -/
def isEntry : Key → Text → Bool
  | ofShare _ share, line => (fields line)[0]? = some (fstabEscape share.source) ∧
      (fields line)[2]? = some (Text.of "cifs")
  | ofWorkspace _, line => (fields line)[2]? = some (Text.of "none") ∧
      ((fields line)[3]?).any fun options => Text.of "bind" ∈ options.splitOn 44

/-- The line makes a pair with the marker in front of it. -/
def own (key : Key) (line : Text) : Bool :=
  Text.IsLine key.marker ∧ Text.IsLine line ∧ key.isEntry line = true

end Key

/-! ## Edits -/

/-- The calls of the four editors. -/
inductive Edit where
  | write (args : EntryArgs) (claimExisting : Bool)
  | writeWorkspace (slot : Text) (source workspace : PathText)
  | remove (slot : Text) (share : SmbShare)
  | removeWorkspace (slot : Text)

/-- What is left of an outcome without the value that is returned. -/
def forget {α : Type} (outcome : Outcome α) : Outcome Unit :=
  (outcome.1.map fun _ => (), outcome.2)

namespace Edit

/-- The key of the call. -/
def key : Edit → Key
  | write args _ => .ofShare args.slot args.share
  | writeWorkspace slot _ _ => .ofWorkspace slot
  | remove slot share => .ofShare slot share
  | removeWorkspace slot => .ofWorkspace slot

/-- The call. -/
def run : Edit → Fault → Option FileText → Outcome Unit
  | write args claimExisting, fault, fstab =>
      writeManagedFstabEntry args claimExisting fault fstab
  | writeWorkspace slot source workspace, fault, fstab =>
      writeManagedWorkspaceBindEntry slot source workspace fault fstab
  | remove slot share, fault, fstab => forget (removeManagedFstabEntry slot share fault fstab)
  | removeWorkspace slot, fault, fstab =>
      forget (removeManagedWorkspaceBindEntry slot fault fstab)

/-- The entry that is written. -/
def entry? : Edit → Option Text
  | write args _ => some args.entry
  | writeWorkspace _ source workspace => some (bindEntry source workspace)
  | remove _ _ => none
  | removeWorkspace _ => none

/-- The paths that are columns of the entry. -/
def paths : Edit → List Text
  | write args _ => [args.mountpoint.text]
  | writeWorkspace _ source workspace => [source.text, workspace.text]
  | remove _ _ => []
  | removeWorkspace _ => []

/-- The line owns the mountpoint that the call is about. -/
def owns : Edit → Text → Bool
  | write args _, line => args.owns line
  | _, _ => false

/-- The call may claim the line. -/
def claims : Edit → Text → Bool
  | write args claimExisting, line => claimExisting && args.sameSource line
  | _, _ => false

/-- What the lines of the file may become: the pairs of the key are the one that is written, or none,
and the other lines are what they were, but for the entries that are claimed and a blank line. -/
def Keeps (edit : Edit) (before after : List Text) : Prop :=
  match edit.entry? with
  | some entry => pairs edit.key.marker edit.key.own after = [entry] ∧
      ∃ sep, (sep = [] ∨ sep = [[]]) ∧ others edit.key.marker edit.key.own after =
        (others edit.key.marker edit.key.own before).map (disabled edit.owns edit.claims) ++ sep
  | none => pairs edit.key.marker edit.key.own after = [] ∧
      (others edit.key.marker edit.key.own after = others edit.key.marker edit.key.own before ∨
        others edit.key.marker edit.key.own before = [] ∧
          others edit.key.marker edit.key.own after = [[]])

/-- A call that raises leaves the file as it is; any other call touches the pairs of its key only,
and changes nothing when it is made again. -/
def Preserves (edit : Edit) (fault : Fault) (fstab : Option FileText) : Prop :=
  match edit.run fault fstab with
  | (.error _, after) => after = fstab
  | (.ok (), after) =>
      edit.Keeps (linesOf fstab) (linesOf after) ∧ edit.run .nowhere after = (.ok (), after)

/-! ## When it does -/

/-- Only line feeds end the lines of the file, and behind every marker of the key is an entry of
it. -/
structure Paired (edit : Edit) (fstab : Option FileText) : Prop where
  lines : ∀ line ∈ linesOf fstab, Text.IsLine line
  paired : edit.key.marker ∉ others edit.key.marker edit.key.own (linesOf fstab)

/-- The pair that is written has a line for the marker and a line for the entry, and no column of
the entry is empty. -/
structure Writable (edit : Edit) (entry : Text) : Prop where
  marker : Text.IsLine edit.key.marker
  entry : Text.IsLine entry
  columns : ∀ path ∈ edit.paths, fstabEscape path ≠ []

/-- The file is as the call leaves it. -/
structure Settled (edit : Edit) (entry : Text) (fstab : Option FileText) (front rest : List Text) :
    Prop where
  text : fstab.map (·.text) = some (Text.unlines (front ++ edit.key.marker :: entry :: rest))
  marker : Text.IsLine edit.key.marker
  entry : Text.IsLine entry
  lines : ∀ line ∈ front ++ rest,
    Text.IsLine line ∧ line ≠ edit.key.marker ∧ edit.owns line = false

/-- When a call does what it has to. -/
def Careful (edit : Edit) (fault : Fault) (fstab : Option FileText) : Prop :=
  fault = .reading ∨ fault = .replacing ∨
  match edit.entry? with
  | some entry =>
      -- The pair cannot be encoded, or an entry that is not claimed owns the mountpoint.
      (edit.key.marker ++ entry).encode.isSome = false ∨
      (∃ line ∈ kept edit.key.marker (readLines fstab),
        edit.owns line = true ∧ edit.claims line = false) ∨
      (fault = .nowhere ∧ edit.Writable entry ∧ edit.Paired fstab) ∨
      fault = .syncing ∧ ∃ front rest, edit.Settled entry fstab front rest
  | none =>
      edit.key.marker ∉ readLines fstab ∨ fault = .nowhere ∧ edit.Paired fstab

end Edit

/-! ## Markers -/

/-- A marker starts with a comment. -/
lemma exists_marker (key : Key) : ∃ rest, key.marker = [35, 32, 97] ++ rest := by
  cases key with
  | ofShare slot share => exact ⟨_, rfl⟩
  | ofWorkspace slot => exact ⟨_, rfl⟩

lemma marker_ne_nil (key : Key) : key.marker ≠ [] := by
  obtain ⟨rest, hmarker⟩ := exists_marker key
  rw [hmarker]
  exact nofun

lemma disabledPrefix_append_ne (key : Key) (line : Text) : disabledPrefix ++ line ≠ key.marker := by
  obtain ⟨rest, hmarker⟩ := exists_marker key
  rw [hmarker]
  intro h
  cases congrArg (·[2]?) h

lemma own_iff {key : Key} {line : Text} : key.own line = true ↔
    Text.IsLine key.marker ∧ Text.IsLine line ∧ key.isEntry line = true := decide_eq_true_iff

lemma own_of_mem_pairs {key : Key} {line : Text} {lines : List Text}
    (h : line ∈ pairs key.marker key.own lines) : key.own line = true := by
  fun_induction pairs key.marker key.own lines with
  | case1 first next rest hpair ih =>
      obtain rfl | h := List.mem_cons.mp h
      · exact hpair.2
      · exact ih h
  | case2 first next rest hpair ih => exact ih h
  | case3 => exact absurd h List.not_mem_nil

/-! ## The file -/

variable {edit : Edit} {entry : Text} {fault : Fault} {fstab : Option FileText}
  {lines front rest : List Text}

/-- What is read are lines. -/
lemma isLine_of_mem_readLines {line : Text} (h : line ∈ readLines fstab) : Text.IsLine line := by
  cases fstab with
  | none => exact absurd h List.not_mem_nil
  | some file => exact Text.isLine_of_mem_splitlines h

/-- A file whose lines only line feeds end is read line by line. -/
lemma readLines_eq_linesOf (h : ∀ line ∈ linesOf fstab, Text.IsLine line) :
    readLines fstab = linesOf fstab := by
  cases fstab with
  | none => rfl
  | some file => exact Text.splitlines_eq_fileLines (Text.forall_isLine_iff.mp h)

lemma isLine_disabled {owns claimed : Text → Bool} {line : Text} (h : Text.IsLine line) :
    Text.IsLine (disabled owns claimed line) := by
  unfold disabled
  split
  · intro c hc
    obtain hc | hc := List.mem_append.mp hc
    · exact (by decide : Text.IsLine disabledPrefix) c hc
    · exact h c hc
  · exact h

lemma isValidChar_of_mem_readLines {line : Text} (h : line ∈ readLines fstab) :
    ∀ c ∈ line, c.isValidChar := by
  cases fstab with
  | none => exact absurd h List.not_mem_nil
  | some file =>
      exact fun c hc => Text.encode_isSome_iff.mp file.encodes c (Text.subset_of_mem_splitlines h hc)

lemma replaceFstab_nowhere {text : Text} (h : text.encode.isSome = true)
    (fstab : Option FileText) : replaceFstab .nowhere text fstab = (.ok (), some ⟨text, h⟩) := by
  unfold replaceFstab
  rw [if_neg nofun, dif_pos h]
  rfl

lemma replaceFstab_syncing {text : Text} (h : text.encode.isSome = true)
    (fstab : Option FileText) :
    replaceFstab .syncing text fstab = (.error .system, some ⟨text, h⟩) := by
  unfold replaceFstab
  rw [if_neg nofun, dif_pos h]
  rfl

lemma replaceFstab_unencodable {text : Text} (h : text.encode.isSome = false) (fault : Fault)
    (fstab : Option FileText) : ∃ raised, replaceFstab fault text fstab = (.error raised, fstab) := by
  unfold replaceFstab
  split_ifs with hfault hencode
  · exact ⟨_, rfl⟩
  · rw [h] at hencode
    cases hencode
  · rw [h] at hencode
    cases hencode
  · exact ⟨_, rfl⟩

/-! ## The writers -/

/-- What the proofs need of a writer. -/
structure Lawful (edit : Edit) (entry : Text) : Prop where
  run : ∀ fault fstab, edit.run fault fstab =
    writePair edit.key.marker entry (keepBy edit.owns edit.claims) fault fstab
  written : edit.entry? = some entry
  marker_free : edit.owns edit.key.marker = false
  disabled_free : ∀ line, edit.owns (disabledPrefix ++ line) = false
  blank_free : edit.owns [] = false
  feedless : 10 ∉ entry
  ends : entry.getLast? ≠ some 13
  foreign : ∀ piece ∈ entry.splitOnP Text.isLineBreak, piece ≠ edit.key.marker
  own_entry : edit.key.own entry = true ↔ edit.Writable entry

/-- A line that passes a writer. -/
structure Passed (edit : Edit) (line : Text) : Prop where
  isLine : Text.IsLine line
  ne_marker : line ≠ edit.key.marker
  free : edit.owns line = false
  valid : ∀ c ∈ line, c.isValidChar

/-- The lines of the file that a writer does not raise at. -/
def Passes (edit : Edit) (fstab : Option FileText) : Prop :=
  ∀ line ∈ kept edit.key.marker (readLines fstab), blocks edit.owns edit.claims line = false

lemma passed_disabled (hlaw : Lawful edit entry) (hpass : Passes edit fstab) :
    ∀ line ∈ (kept edit.key.marker (readLines fstab)).map (disabled edit.owns edit.claims),
      Passed edit line := by
  rw [List.forall_mem_map]
  intro line hline
  have hread := mem_of_mem_kept hline
  have hblocks := hpass line hline
  unfold blocks at hblocks
  unfold disabled
  cases howns : edit.owns line with
  | false =>
      exact ⟨isLine_of_mem_readLines hread, fun heq => notMem_kept _ (heq ▸ hline), howns,
        isValidChar_of_mem_readLines hread⟩
  | true =>
      rw [howns, Bool.true_and, Bool.not_eq_false'] at hblocks
      rw [hblocks]
      have hline' := @isLine_disabled (fun _ => true) (fun _ => true) line
        (isLine_of_mem_readLines hread)
      refine ⟨hline', disabledPrefix_append_ne _ _, hlaw.disabled_free line, fun c hc => ?_⟩
      obtain hc | hc := List.mem_append.mp hc
      · exact (by decide : ∀ c ∈ disabledPrefix, c.isValidChar) c hc
      · exact isValidChar_of_mem_readLines hread c hc

/-- A line that has passed passes again. -/
lemma Passed.blocks {line : Text} (h : Passed edit line) :
    blocks edit.owns edit.claims line = false := by
  unfold Fstab.blocks
  rw [h.free]
  rfl

lemma Passed.disabled {line : Text} (h : Passed edit line) :
    disabled edit.owns edit.claims line = line := by
  unfold Fstab.disabled
  rw [h.free]
  rfl

lemma passed_blank (hlaw : Lawful edit entry) : Passed edit [] :=
  ⟨fun _ hc => absurd hc List.not_mem_nil, (marker_ne_nil _).symm, hlaw.blank_free,
    fun _ hc => absurd hc List.not_mem_nil⟩

/-- What a writer leaves: its pair between lines that have passed. -/
structure Stamped (edit : Edit) (entry : Text) (fstab : Option FileText)
    (front sep rest : List Text) : Prop where
  lines : stampedLines edit.key.marker entry (keepBy edit.owns edit.claims) (readLines fstab) =
    some (front ++ sep ++ edit.key.marker :: entry :: rest)
  passing : front ++ rest =
    (kept edit.key.marker (readLines fstab)).map (disabled edit.owns edit.claims)
  blank : sep = [] ∨ sep = [[]] ∧ rest = []
  passed : ∀ line ∈ front ++ sep ++ rest, Passed edit line

lemma exists_stamped (hlaw : Lawful edit entry) (hpass : Passes edit fstab) :
    ∃ front sep rest, Stamped edit entry fstab front sep rest := by
  obtain ⟨front, sep, rest, hlines, hkept, hsep⟩ := @stampedLines_eq _ _ _ entry _ hpass
  have hpassed := passed_disabled hlaw hpass
  rw [← hkept] at hpassed
  refine ⟨front, sep, rest, hlines, hkept, hsep, fun line hline => ?_⟩
  rw [List.mem_append, List.mem_append, or_right_comm] at hline
  obtain hline | hline := hline
  · exact hpassed line (List.mem_append.mpr hline)
  · obtain rfl | ⟨rfl, -⟩ := hsep
    · exact absurd hline List.not_mem_nil
    · rw [List.mem_singleton.mp hline]
      exact passed_blank hlaw

variable {sep : List Text}

lemma mem_stamped_iff {marker line : Text} : line ∈ front ++ sep ++ marker :: entry :: rest ↔
    line = marker ∨ line = entry ∨ line ∈ front ++ sep ++ rest := by
  simp only [List.mem_append, List.mem_cons]
  tauto

/-- The text that a writer leaves can be encoded if its pair can. -/
lemma Stamped.encode_iff (h : Stamped edit entry fstab front sep rest) :
    (Text.unlines (front ++ sep ++ edit.key.marker :: entry :: rest)).encode.isSome = true ↔
      (edit.key.marker ++ entry).encode.isSome = true := by
  rw [Text.encode_isSome_iff, Text.encode_isSome_iff]
  constructor
  · intro hall c hc
    refine hall c (Text.mem_unlines_iff.mpr (.inr ?_))
    obtain hc | hc := List.mem_append.mp hc
    · exact ⟨_, by simp, hc⟩
    · exact ⟨_, by simp, hc⟩
  · intro hall c hc
    obtain rfl | ⟨line, hline, hc⟩ := Text.mem_unlines_iff.mp hc
    · decide
    · obtain heq | heq | hline := mem_stamped_iff.mp hline
      · exact hall c (List.mem_append_left _ (heq ▸ hc))
      · exact hall c (List.mem_append_right _ (heq ▸ hc))
      · exact (h.passed line hline).valid c hc

/-- The call, where no line blocks it. -/
lemma Stamped.run (hlaw : Lawful edit entry) (h : Stamped edit entry fstab front sep rest)
    (hfault : fault ≠ .reading) : edit.run fault fstab =
      replaceFstab fault (Text.unlines (front ++ sep ++ edit.key.marker :: entry :: rest))
        fstab := by
  rw [hlaw.run]
  unfold writePair
  rw [if_neg hfault, h.lines]

/-- Where a pair is written, the writer is careful only about the lines. -/
lemma Stamped.isLine (h : Stamped edit entry fstab front sep rest)
    (hmarker : Text.IsLine edit.key.marker) (hentry : Text.IsLine entry) :
    ∀ line ∈ front ++ sep ++ edit.key.marker :: entry :: rest, Text.IsLine line := by
  intro line hline
  obtain rfl | rfl | hline := mem_stamped_iff.mp hline
  · exact hmarker
  · exact hentry
  · exact (h.passed line hline).isLine

lemma Stamped.notMem_front (h : Stamped edit entry fstab front sep rest) :
    edit.key.marker ∉ front ++ sep := fun hmem =>
  (h.passed _ (List.mem_append_left _ hmem)).ne_marker rfl

lemma Stamped.notMem_rest (h : Stamped edit entry fstab front sep rest) :
    edit.key.marker ∉ rest := fun hmem =>
  (h.passed _ (List.mem_append_right _ hmem)).ne_marker rfl

/-- The pairs of the lines that a writer leaves. -/
lemma Stamped.pairs (h : Stamped edit entry fstab front sep rest) (hown : edit.key.own entry = true) :
    Stamps.pairs edit.key.marker edit.key.own (front ++ sep ++ edit.key.marker :: entry :: rest) =
      [entry] := by
  rw [pairs_append h.notMem_front hown, pairs_of_notMem h.notMem_rest]

/-- The other lines that a writer leaves. -/
lemma Stamped.others (h : Stamped edit entry fstab front sep rest)
    (hown : edit.key.own entry = true) :
    Stamps.others edit.key.marker edit.key.own
        (front ++ sep ++ edit.key.marker :: entry :: rest) =
      (kept edit.key.marker (readLines fstab)).map (disabled edit.owns edit.claims) ++ sep := by
  rw [others_append h.notMem_front hown, others_of_notMem h.notMem_rest, ← h.passing]
  obtain rfl | ⟨rfl, rfl⟩ := h.blank
  · rw [List.append_nil, List.append_nil]
  · rw [List.append_nil, List.append_nil]

lemma Stamped.sep_eq (h : Stamped edit entry fstab front sep rest) : sep = [] ∨ sep = [[]] :=
  h.blank.imp_right And.left

lemma map_disabled (h : ∀ line ∈ lines, Passed edit line) :
    lines.map (disabled edit.owns edit.claims) = lines :=
  (List.map_congr_left fun line hline => (h line hline).disabled).trans (List.map_id _)

/-- What a writer leaves is left as it is when the call is made again. -/
lemma Stamped.again (hlaw : Lawful edit entry) (h : Stamped edit entry fstab front sep rest)
    (hwritable : edit.Writable entry)
    (hencode : (Text.unlines (front ++ sep ++ edit.key.marker :: entry :: rest)).encode.isSome =
      true) : edit.run .nowhere (some ⟨_, hencode⟩) = (.ok (), some ⟨_, hencode⟩) := by
  have hread : readLines (some ⟨_, hencode⟩) =
      front ++ sep ++ edit.key.marker :: entry :: rest :=
    Text.splitlines_unlines (by simp) (h.isLine hwritable.marker hwritable.entry)
  have hrest : kept edit.key.marker ((entry :: rest).drop 1) = rest :=
    kept_of_notMem h.notMem_rest
  have hblocks : ∀ line ∈ front ++ sep ++ kept edit.key.marker ((entry :: rest).drop 1),
      blocks edit.owns edit.claims line = false := by
    rw [hrest]
    exact fun line hline => (h.passed line hline).blocks
  rw [hlaw.run]
  unfold writePair
  rw [if_neg nofun, hread, stampedLines_append h.notMem_front hblocks, hrest,
    map_disabled fun line hline => h.passed line (List.mem_append_left _ hline),
    map_disabled fun line hline => h.passed line (List.mem_append_right _ hline)]
  exact replaceFstab_nowhere hencode _

/-- The lines of the file that a writer leaves, as line feeds end them. -/
lemma Stamped.linesOf (h : Stamped edit entry fstab front sep rest)
    (hmarker : 10 ∉ edit.key.marker) (hentry : 10 ∉ entry)
    (hencode : (Text.unlines (front ++ sep ++ edit.key.marker :: entry :: rest)).encode.isSome =
      true) : Fstab.linesOf (some ⟨_, hencode⟩) =
        front ++ sep ++ edit.key.marker :: entry :: rest := by
  refine Text.fileLines_unlines (by simp) fun line hline => ?_
  obtain rfl | rfl | hline := mem_stamped_iff.mp hline
  · exact hmarker
  · exact hentry
  · exact (h.passed line hline).isLine.not_mem rfl

/-- A writer touches the pairs of its key only, if the file has its lines in pairs. -/
lemma Stamped.keeps (hlaw : Lawful edit entry) (h : Stamped edit entry fstab front sep rest)
    (hwritable : edit.Writable entry) (hpaired : edit.Paired fstab)
    (hencode : (Text.unlines (front ++ sep ++ edit.key.marker :: entry :: rest)).encode.isSome =
      true) : edit.Keeps (Fstab.linesOf fstab) (Fstab.linesOf (some ⟨_, hencode⟩)) := by
  have hown := hlaw.own_entry.mpr hwritable
  have hkept : kept edit.key.marker (readLines fstab) =
      Stamps.others edit.key.marker edit.key.own (Fstab.linesOf fstab) := by
    rw [readLines_eq_linesOf hpaired.lines]
    exact kept_eq_others hpaired.paired
  unfold Edit.Keeps
  rw [hlaw.written, h.linesOf (hwritable.marker.not_mem rfl) hlaw.feedless]
  refine ⟨h.pairs hown, sep, h.sep_eq, ?_⟩
  rw [h.others hown, hkept]

/-- If it does, the file has its lines in pairs, and the pair can be read. -/
lemma Stamped.paired_of_keeps (hlaw : Lawful edit entry)
    (h : Stamped edit entry fstab front sep rest)
    (hencode : (Text.unlines (front ++ sep ++ edit.key.marker :: entry :: rest)).encode.isSome =
      true)
    (hkeeps : edit.Keeps (Fstab.linesOf fstab) (Fstab.linesOf (some ⟨_, hencode⟩))) :
    edit.Writable entry ∧ edit.Paired fstab := by
  unfold Edit.Keeps at hkeeps
  rw [hlaw.written] at hkeeps
  obtain ⟨hpairs, sep', hsep', hothers⟩ := hkeeps
  have hown : edit.key.own entry = true := own_of_mem_pairs (hpairs ▸ List.mem_singleton_self _)
  have hwritable := hlaw.own_entry.mp hown
  rw [h.linesOf (hwritable.marker.not_mem rfl) hlaw.feedless, h.others hown] at hothers
  -- What is in no pair of the file is a line that has passed.
  have hpassed : ∀ line ∈ Stamps.others edit.key.marker edit.key.own (Fstab.linesOf fstab),
      Passed edit (disabled edit.owns edit.claims line) := by
    intro line hline
    have hmem : disabled edit.owns edit.claims line ∈
        (kept edit.key.marker (readLines fstab)).map (disabled edit.owns edit.claims) ++ sep := by
      rw [hothers]
      exact List.mem_append_left _ (List.mem_map_of_mem hline)
    rw [← h.passing] at hmem
    refine h.passed _ ?_
    simp only [List.mem_append] at hmem ⊢
    tauto
  refine ⟨hwritable, fun line hline => ?_, fun hmem => ?_⟩
  · by_contra hbreak
    have hne : line ≠ edit.key.marker := fun heq => hbreak (heq ▸ hwritable.marker)
    have hnot : edit.key.own line = false :=
      Bool.eq_false_iff.mpr fun hown => hbreak (own_iff.mp hown).2.1
    have hline' := (hpassed line (mem_others hline hne hnot)).isLine
    refine hbreak fun c hc => hline' c ?_
    unfold disabled
    split
    · exact List.mem_append_right _ hc
    · exact hc
  · have hmarker := hpassed _ hmem
    have hfree : disabled edit.owns edit.claims edit.key.marker = edit.key.marker := by
      unfold disabled
      rw [hlaw.marker_free]
      rfl
    exact hmarker.ne_marker hfree

/-- A text is one piece only if it is not cut. -/
lemma isLine_of_splitOnP {line piece : Text} (h : line.splitOnP Text.isLineBreak = [piece]) :
    Text.IsLine line := by
  intro c hc
  by_contra hbreak
  exact Text.splitOnP_rest_ne_nil hc (Bool.not_eq_false _ ▸ hbreak) h rfl

/-- A writer leaves a settled file as it is. -/
lemma run_of_settled (hlaw : Lawful edit entry) (h : edit.Settled entry fstab front rest) :
    edit.run .syncing fstab = (.error .system, fstab) := by
  obtain ⟨file, rfl, htext⟩ := Option.map_eq_some_iff.mp h.text
  obtain ⟨text, hencode⟩ := file
  obtain rfl : text = Text.unlines (front ++ edit.key.marker :: entry :: rest) := htext
  have hline : ∀ line ∈ front ++ edit.key.marker :: entry :: rest, Text.IsLine line := by
    intro line hline
    rw [← List.append_nil front] at hline
    obtain rfl | rfl | hline := mem_stamped_iff.mp hline
    · exact h.marker
    · exact h.entry
    · rw [List.append_nil] at hline
      exact (h.lines line hline).1
  have hread : readLines (some ⟨_, hencode⟩) = front ++ edit.key.marker :: entry :: rest :=
    Text.splitlines_unlines (by simp) hline
  have hpassed : ∀ line ∈ front ++ rest, Passed edit line := by
    intro line hmem
    obtain ⟨hisLine, hne, hfree⟩ := h.lines line hmem
    refine ⟨hisLine, hne, hfree, fun c hc => ?_⟩
    refine Text.encode_isSome_iff.mp hencode c (Text.mem_unlines_iff.mpr (.inr ⟨line, ?_, hc⟩))
    simp only [List.mem_append, List.mem_cons] at hmem ⊢
    tauto
  have hfront : edit.key.marker ∉ front := fun hmem =>
    (hpassed _ (List.mem_append_left _ hmem)).ne_marker rfl
  have hrest : kept edit.key.marker ((entry :: rest).drop 1) = rest :=
    kept_of_notMem fun hmem => (hpassed _ (List.mem_append_right _ hmem)).ne_marker rfl
  have hblocks : ∀ line ∈ front ++ kept edit.key.marker ((entry :: rest).drop 1),
      blocks edit.owns edit.claims line = false := by
    rw [hrest]
    exact fun line hline => (hpassed line hline).blocks
  rw [hlaw.run]
  unfold writePair
  rw [if_neg nofun, hread, stampedLines_append hfront hblocks, hrest,
    map_disabled fun line hline => hpassed line (List.mem_append_left _ hline),
    map_disabled fun line hline => hpassed line (List.mem_append_right _ hline)]
  exact replaceFstab_syncing hencode _

/-- What is read from the file that a writer leaves. -/
lemma Stamped.readLines (h : Stamped edit entry fstab front sep rest)
    (hencode : (Text.unlines (front ++ sep ++ edit.key.marker :: entry :: rest)).encode.isSome =
      true) : Fstab.readLines (some ⟨_, hencode⟩) =
        front ++ sep ++ (Text.splitlines (edit.key.marker ++ [10]) ++
          (Text.splitlines (entry ++ [10]) ++ rest)) := by
  have hpassed : ∀ {lines : List Text}, (∀ line ∈ lines, Passed edit line) →
      (lines.flatMap fun line => Text.splitlines (line ++ [10])) = lines := by
    intro lines hlines
    induction lines with
    | nil => rfl
    | cons line lines ih =>
        rw [List.flatMap_cons, Text.splitlines_newline_of_isLine
          (hlines line List.mem_cons_self).isLine, ih fun l hl => hlines l (List.mem_cons_of_mem _ hl)]
        rfl
  refine (Text.splitlines_unlines_eq (by simp)).trans ?_
  rw [List.flatMap_append, List.flatMap_cons, List.flatMap_cons,
    hpassed fun line hline => h.passed line (List.mem_append_left _ hline),
    hpassed fun line hline => h.passed line (List.mem_append_right _ hline)]

/-- A file that a writer leaves as it is has the pair already. -/
lemma Stamped.settled (hlaw : Lawful edit entry) (hpass : Passes edit fstab)
    (h : Stamped edit entry fstab front sep rest)
    (hencode : (Text.unlines (front ++ sep ++ edit.key.marker :: entry :: rest)).encode.isSome =
      true) (hsame : some ⟨_, hencode⟩ = fstab) :
    edit.Settled entry fstab (front ++ sep) rest := by
  have hread := h.readLines hencode
  rw [hsame] at hread
  have hlines := h.lines
  obtain ⟨first, pieces, hpieces⟩ := List.exists_cons_of_ne_nil
    (List.splitOnP_ne_nil Text.isLineBreak entry)
  have hentry : Text.splitlines (entry ++ [10]) = first :: pieces :=
    (Text.splitlines_newline hlaw.feedless hlaw.ends).trans hpieces
  rw [hentry] at hread
  by_cases hmarker : edit.key.marker ∈ Fstab.readLines fstab
  · have hisLine := isLine_of_mem_readLines hmarker
    rw [Text.splitlines_newline_of_isLine hisLine] at hread
    change Fstab.readLines fstab = front ++ sep ++ edit.key.marker :: (first :: pieces ++ rest)
      at hread
    -- Behind the marker are the pieces of the entry, of which only the first one is taken along.
    have hforeign : edit.key.marker ∉ pieces ++ rest := by
      rw [List.mem_append]
      rintro (hmem | hmem)
      · exact hlaw.foreign _ (hpieces ▸ List.mem_cons_of_mem _ hmem) rfl
      · exact h.notMem_rest hmem
    have hkept : kept edit.key.marker ((first :: pieces ++ rest).drop 1) = pieces ++ rest :=
      kept_of_notMem hforeign
    have hblocks := hpass
    unfold Passes at hblocks
    rw [hread, kept_append h.notMem_front] at hblocks
    rw [hread, stampedLines_append h.notMem_front hblocks, hkept, Option.some.injEq,
      map_disabled fun line hline => h.passed line (List.mem_append_left _ hline)] at hlines
    have hrest := (List.cons.inj (List.cons.inj (List.append_cancel_left hlines)).2).2
    have hlength := congrArg List.length hrest
    rw [List.length_map, List.length_append] at hlength
    obtain rfl : pieces = [] := List.length_eq_zero_iff.mp (by omega)
    refine ⟨hsame ▸ rfl, hisLine, isLine_of_splitOnP hpieces, fun line hline => ?_⟩
    have hpassed := h.passed line hline
    exact ⟨hpassed.isLine, hpassed.ne_marker, hpassed.free⟩
  · -- Where there is no marker, the pair makes the file longer.
    have hblocks := hpass
    unfold Passes at hblocks
    rw [kept_of_notMem hmarker] at hblocks
    rw [stampedLines_of_notMem hmarker hblocks, Option.some.injEq] at hlines
    have hlength := congrArg List.length hlines
    rw [hread] at hlength
    have hpos := List.length_pos_of_ne_nil
      (Text.splitlines_newline_ne_nil edit.key.marker)
    simp only [List.length_append, List.length_map, List.length_cons, List.length_nil] at hlength
    omega

/-- **When a writer touches the pairs of its key only.** -/
theorem writer_preserves_iff (hlaw : Lawful edit entry) :
    edit.Preserves fault fstab ↔ edit.Careful fault fstab := by
  have hraises : (∃ raised, edit.run fault fstab = (.error raised, fstab)) →
      edit.Preserves fault fstab := by
    rintro ⟨raised, hrun⟩
    unfold Edit.Preserves
    rw [hrun]
  unfold Edit.Careful
  rw [hlaw.written]
  by_cases hreading : fault = .reading
  · refine iff_of_true (hraises ⟨.system, ?_⟩) (.inl hreading)
    rw [hlaw.run]
    exact if_pos hreading
  by_cases hpass : Passes edit fstab
  · obtain ⟨front, sep, rest, h⟩ := exists_stamped hlaw hpass
    have hrun := h.run hlaw hreading
    have hfree : ¬∃ line ∈ kept edit.key.marker (readLines fstab),
        edit.owns line = true ∧ edit.claims line = false := by
      rintro ⟨line, hline, howns, hclaims⟩
      have hblocks := hpass line hline
      unfold blocks at hblocks
      rw [howns, hclaims] at hblocks
      cases hblocks
    by_cases hencode : (edit.key.marker ++ entry).encode.isSome = true
    · have hencode' := h.encode_iff.mpr hencode
      cases fault with
      | reading => exact absurd rfl hreading
      | replacing =>
          refine iff_of_true (hraises ⟨.system, hrun.trans ?_⟩) (.inr (.inl rfl))
          exact if_pos rfl
      | nowhere =>
          rw [replaceFstab_nowhere hencode'] at hrun
          have hagain := fun hwritable => h.again hlaw hwritable hencode'
          unfold Edit.Preserves
          rw [hrun]
          constructor
          · rintro ⟨hkeeps, -⟩
            obtain ⟨hwritable, hpaired⟩ := h.paired_of_keeps hlaw hencode' hkeeps
            exact .inr (.inr (.inr (.inr (.inl ⟨rfl, hwritable, hpaired⟩))))
          · rintro (hfault | hfault | hnot | hblocked | ⟨-, hwritable, hpaired⟩ | ⟨hfault, -⟩)
            · cases hfault
            · cases hfault
            · rw [hencode] at hnot
              cases hnot
            · exact absurd hblocked hfree
            · exact ⟨h.keeps hlaw hwritable hpaired hencode', hagain hwritable⟩
            · cases hfault
      | syncing =>
          rw [replaceFstab_syncing hencode'] at hrun
          constructor
          · unfold Edit.Preserves
            rw [hrun]
            intro hsame
            exact .inr (.inr (.inr (.inr (.inr
              ⟨rfl, _, _, h.settled hlaw hpass hencode' hsame⟩))))
          · rintro (hfault | hfault | hnot | hblocked | ⟨hfault, -⟩ | ⟨-, front, rest, hsettled⟩)
            · cases hfault
            · cases hfault
            · rw [hencode] at hnot
              cases hnot
            · exact absurd hblocked hfree
            · cases hfault
            · exact hraises ⟨_, run_of_settled hlaw hsettled⟩
    · rw [Bool.not_eq_true] at hencode
      have hencode' := Bool.eq_false_iff.mpr fun htrue =>
        Bool.eq_false_iff.mp hencode (h.encode_iff.mp htrue)
      rw [hrun] at hraises
      exact iff_of_true (hraises (replaceFstab_unencodable hencode' _ _))
        (.inr (.inr (.inl hencode)))
  · unfold Passes at hpass
    simp only [not_forall, Bool.not_eq_false] at hpass
    obtain ⟨line, hline, hblocks⟩ := hpass
    refine iff_of_true (hraises ⟨.owned, ?_⟩) (.inr (.inr (.inr (.inl ⟨line, hline, ?_⟩))))
    · rw [hlaw.run]
      unfold writePair
      rw [if_neg hreading, stampedLines_of_blocks ⟨line, hline, hblocks⟩]
    · unfold blocks at hblocks
      rwa [Bool.and_eq_true, Bool.not_eq_true'] at hblocks

/-! ## The removals -/

/-- A line that makes a pair is read. -/
lemma pairs_eq_nil {key : Key} (h : key.marker ∉ readLines fstab) :
    pairs key.marker key.own (linesOf fstab) = [] := by
  by_cases hmem : key.marker ∈ linesOf fstab
  · have hnot : ¬Text.IsLine key.marker := by
      intro hline
      cases fstab with
      | none => exact absurd hmem List.not_mem_nil
      | some file => exact h (Text.mem_splitlines_of_mem_fileLines hline hmem)
    rw [List.eq_nil_iff_forall_not_mem]
    exact fun line hline => hnot (own_iff.mp (own_of_mem_pairs hline)).1
  · exact pairs_of_notMem hmem

/-- **When a removal touches the pairs of its key only.** -/
theorem removal_preserves_iff (hnone : edit.entry? = none)
    (hrun : ∀ fault fstab, edit.run fault fstab =
      forget (removePair edit.key.marker fault fstab)) :
    edit.Preserves fault fstab ↔ edit.Careful fault fstab := by
  set marker := edit.key.marker with hmarker
  have hremove : ∀ fault ≠ Fault.reading, ∀ fstab, marker ∉ readLines fstab →
      edit.run fault fstab = (.ok (), fstab) := by
    intro fault hfault fstab hnot
    rw [hrun]
    unfold removePair
    rw [if_neg hfault, removeLines_eq, decide_eq_false hnot]
    rfl
  unfold Edit.Careful
  rw [hnone]
  by_cases hreading : fault = .reading
  · have hraises : edit.run fault fstab = (.error .system, fstab) := by
      rw [hrun]
      unfold removePair
      rw [if_pos hreading]
      rfl
    refine iff_of_true ?_ (.inl hreading)
    unfold Edit.Preserves
    rw [hraises]
  by_cases hread : marker ∈ readLines fstab
  · have hline := isLine_of_mem_readLines hread
    have hkept : ∀ line ∈ kept marker (readLines fstab), Text.IsLine line := fun line hmem =>
      isLine_of_mem_readLines (mem_of_mem_kept hmem)
    have hencode : (Text.unlines (kept marker (readLines fstab))).encode.isSome = true := by
      refine Text.encode_isSome_iff.mpr fun c hc => ?_
      obtain rfl | ⟨line, hmem, hc⟩ := Text.mem_unlines_iff.mp hc
      · decide
      · exact isValidChar_of_mem_readLines (mem_of_mem_kept hmem) c hc
    have hstep : edit.run fault fstab =
        replaceFstab fault (Text.unlines (kept marker (readLines fstab))) fstab := by
      rw [hrun]
      unfold removePair
      rw [if_neg hreading, removeLines_eq, decide_eq_true hread]
      dsimp only
      rw [if_pos rfl]
      obtain ⟨(raised | ⟨⟩), after⟩ :=
        replaceFstab fault (Text.unlines (kept marker (readLines fstab))) fstab
      · rfl
      · rfl
    -- The lines of the new file are those that are kept; if there are none, one that is empty.
    obtain ⟨left, hleft, hafterRead, hafterLines, hleftKept⟩ : ∃ left, marker ∉ left ∧
        readLines (some ⟨_, hencode⟩) = left ∧ linesOf (some ⟨_, hencode⟩) = left ∧
        (left = kept marker (readLines fstab) ∨
          kept marker (readLines fstab) = [] ∧ left = [[]]) := by
      by_cases hnil : kept marker (readLines fstab) = []
      · refine ⟨[[]], ?_, ?_, ?_, .inr ⟨hnil, rfl⟩⟩
        · rw [List.mem_singleton]
          exact marker_ne_nil _
        · change Text.splitlines (Text.unlines _) = _
          rw [hnil]
          rfl
        · change Text.fileLines (Text.unlines _) = _
          rw [hnil]
          rfl
      · refine ⟨_, notMem_kept _, ?_, ?_, .inl rfl⟩
        · exact Text.splitlines_unlines hnil hkept
        · exact Text.fileLines_unlines hnil fun line hmem => (hkept line hmem).not_mem rfl
    have hleftLine : ∀ line ∈ left, Text.IsLine line := fun line hmem =>
      isLine_of_mem_readLines (hafterRead.symm ▸ hmem)
    have hothers : others marker edit.key.own left = left := others_of_notMem hleft
    cases fault with
    | reading => exact absurd rfl hreading
    | replacing =>
        refine iff_of_true ?_ (.inr (.inl rfl))
        unfold Edit.Preserves
        rw [hstep]
        exact rfl
    | syncing =>
        refine iff_of_false ?_ ?_
        · unfold Edit.Preserves
          rw [hstep, replaceFstab_syncing hencode]
          intro hsame
          rw [hsame] at hafterRead
          exact hleft (hafterRead ▸ hread)
        · rintro (hfault | hfault | hnot | ⟨hfault, -⟩)
          · cases hfault
          · cases hfault
          · exact hnot hread
          · cases hfault
    | nowhere =>
        have hagain : edit.run .nowhere (some ⟨_, hencode⟩) = (.ok (), some ⟨_, hencode⟩) :=
          hremove .nowhere nofun _ (hafterRead.symm ▸ hleft)
        unfold Edit.Preserves Edit.Keeps
        rw [hstep, replaceFstab_nowhere hencode]
        dsimp only
        rw [hnone, hafterLines, ← hmarker, pairs_of_notMem hleft, hothers]
        constructor
        · rintro ⟨⟨-, hkeeps⟩, -⟩
          have hmem : ∀ line ∈ others marker edit.key.own (linesOf fstab), line ∈ left := by
            intro line hmem
            obtain hsame | ⟨hnil, -⟩ := hkeeps
            · exact hsame ▸ hmem
            · rw [hnil] at hmem
              cases hmem
          refine .inr (.inr (.inr ⟨rfl, fun line hmemLine => ?_, fun hmarkerMem =>
            hleft (hmem _ hmarkerMem)⟩))
          by_contra hbreak
          have hnot : edit.key.own line = false :=
            Bool.eq_false_iff.mpr fun hown => hbreak (own_iff.mp hown).2.1
          exact hbreak (hleftLine line (hmem line
            (mem_others hmemLine (fun heq => hbreak (heq ▸ hline)) hnot)))
        · rintro (hfault | hfault | hnot | ⟨-, hpaired⟩)
          · cases hfault
          · cases hfault
          · exact absurd hread hnot
          · have hsame : kept marker (readLines fstab) =
                others marker edit.key.own (linesOf fstab) := by
              rw [readLines_eq_linesOf hpaired.lines]
              exact kept_eq_others hpaired.paired
            rw [hsame] at hleftKept
            exact ⟨⟨rfl, hleftKept⟩, hagain⟩
  · refine iff_of_true ?_ (.inr (.inr (.inl hread)))
    unfold Edit.Preserves Edit.Keeps
    rw [hremove fault hreading fstab hread]
    dsimp only
    rw [hnone]
    exact ⟨⟨pairs_eq_nil hread, .inl rfl⟩, hremove .nowhere nofun _ hread⟩

end AgentRuntimeOps.Fstab
