import AgentRuntimeOps.Fstab.Reading
import AgentRuntimeOps.Routing.Lookup

/-!
# What is written is read back

`readsBack_iff` says when the three readers agree with `write_managed_fstab_entry`: no blank cuts
the marker or a column, no comma an option, and no other line of the file is taken for the marker.
-/

namespace AgentRuntimeOps.Fstab

open Lib Nas Stamps

/-! ## What the readers report -/

/-- What the readers say of the entry once the call has returned. -/
structure ReadsBack (args : EntryArgs) (lines : List Text) : Prop where
  entries : (readManagedFstabEntries lines).filter
      (fun found => found.slot = args.slot ∧ found.source = args.share.source) =
    [⟨args.slot, args.share.source, args.mountpoint.text, args.readWrite,
      args.credentialPath.text⟩]
  boot : fstabBootEntryPresent args.slot args.share.source lines = true
  targets : (args.slot, args.share.source, args.mountpoint.text) ∈ managedFstabMountTargets lines

namespace EntryArgs

variable (args : EntryArgs) (claimExisting : Bool)

/-- What a line of no pair becomes. -/
def left : Text → Text := disabled args.owns fun line => claimExisting && args.sameSource line

/-- The lines in front of the pair, as the call leaves them. -/
def linesBefore (lines : List Text) : List Text :=
  (lines.takeWhile (· ≠ args.marker)).map (args.left claimExisting)

/-- The lines behind the pair, as the call leaves them. -/
def linesBehind (lines : List Text) : List Text :=
  (kept args.marker (lines.dropWhile (· ≠ args.marker))).map (args.left claimExisting)

end EntryArgs

/-- The first line that only blanks tell from the marker has an entry behind it. -/
def unshadowed (marker : Text) : List Text → Bool
  | [] => true
  | line :: rest =>
      if line.strip = marker then rest.head?.any isBootEntry else unshadowed marker rest

/-- No blank cuts the marker or a column, and no comma an option. -/
structure Plain (args : EntryArgs) : Prop where
  source : ∀ c ∈ args.share.source, Text.isSpace c = false
  mountpoint : IsPath args.mountpoint.text
  credentials : IsPath args.credentialPath.text ∧ 44 ∉ args.credentialPath.text

/-- When an entry is read back. -/
structure Readable (args : EntryArgs) (claimExisting : Bool) (lines : List Text) : Prop where
  plain : Plain args
  /-- `fstab_unescape` does not halve a backslash at the end. -/
  mountpoint_ends : args.mountpoint.text.getLast? ≠ some 92
  credentials_ends : args.credentialPath.text.getLast? ≠ some 92
  /-- No line in front of the pair is taken for its marker. -/
  boot : unshadowed args.marker (args.linesBefore claimExisting lines) = true
  /-- The decoder of `nas_views.py` reads the mountpoint, or another line says the same. -/
  viewed : 92 ∉ args.mountpoint.text ∨
    ∃ part ∈ [args.linesBefore claimExisting lines, args.linesBehind claimExisting lines],
      (args.slot, args.share.source, args.mountpoint.text) ∈ managedFstabMountTargets part

/-! ## Options -/

section entry

variable {args : EntryArgs} {c : Nat} {value : Text}

/-- An option that no reader looks for. -/
def IsOther (option : Text) : Prop :=
  (∀ c ∈ option, 45 ≤ c ∧ c ≤ 122) ∧ option.head? ≠ some 99 ∧ option.head? ≠ some 114

instance (option : Text) : Decidable (IsOther option) :=
  inferInstanceAs (Decidable ((∀ c ∈ option, 45 ≤ c ∧ c ≤ 122) ∧ _))

lemma isOther_number {name : Text} (h : IsOther name) (hne : name ≠ []) (n : Nat) :
    IsOther (name ++ numberText n) := by
  refine ⟨fun c hc => ?_, ?_⟩
  · rcases List.mem_append.mp hc with hc | hc
    · exact h.1 c hc
    · have hdigit := digit_of_mem_numberText hc
      omega
  · rw [List.head?_append_of_ne_nil _ hne]
    exact h.2

lemma EntryArgs.exists_others (args : EntryArgs) : ∃ others, args.options =
    (Text.of "credentials=" ++ fstabEscape args.credentialPath.text) ::
      (if args.readWrite then Text.of "rw" else Text.of "ro") :: others ∧
    ∀ option ∈ others, IsOther option := by
  have hmode : ∀ name mode mode', IsOther (Text.of name ++ Text.of mode) →
      IsOther (Text.of name ++ Text.of mode') →
      IsOther (Text.of name ++ if args.readWrite then Text.of mode else Text.of mode') := by
    intro name mode mode' hmode hmode'
    cases args.readWrite
    · exact hmode'
    · exact hmode
  refine ⟨_, rfl, ?_⟩
  simp only [List.forall_mem_cons, List.not_mem_nil, false_implies, implies_true, and_true]
  exact ⟨by decide, by decide, by decide, by decide, by decide,
    isOther_number (by decide) (by decide) _, by decide,
    isOther_number (by decide) (by decide) _, by decide, hmode _ _ _ (by decide) (by decide),
    hmode _ _ _ (by decide) (by decide), by decide, by decide, by decide⟩

lemma mem_escape (h : c ∈ fstabEscape value) :
    (c ∈ value ∧ c ≠ 32 ∧ c ≠ 9) ∨ c ∈ Text.of "\\0419" := by
  obtain ⟨d, hd, hc⟩ := List.mem_flatMap.mp h
  split_ifs at hc with h₁ h₂ h₃ h₄
  · exact .inr ((by decide : ∀ c ∈ [92, 92], c ∈ Text.of "\\0419") c hc)
  · exact .inr ((by decide : ∀ c ∈ Text.of "\\040", c ∈ Text.of "\\0419") c hc)
  · exact .inr ((by decide : ∀ c ∈ Text.of "\\011", c ∈ Text.of "\\0419") c hc)
  · exact absurd hc List.not_mem_nil
  · rw [List.mem_singleton.mp hc]
    exact .inl ⟨hd, h₂, h₃⟩

lemma plain_escape (h : IsPath value) : ∀ c ∈ fstabEscape value, Text.isSpace c = false := by
  intro c hc
  rcases mem_escape hc with ⟨hc, hblank, htab⟩ | hc
  · exact Bool.eq_false_iff.mpr fun hspace => (h c hc hspace).elim hblank htab
  · exact (by decide : ∀ c ∈ Text.of "\\0419", Text.isSpace c = false) c hc

lemma isSpace_of_visible (h : 45 ≤ c ∧ c ≤ 122) : Text.isSpace c = false := by
  unfold Text.isSpace
  simp only [Bool.or_eq_false_iff, Bool.and_eq_false_iff, decide_eq_false_iff_not,
    beq_eq_false_iff_ne]
  omega

lemma access_visible : ∀ c ∈ (if args.readWrite then Text.of "rw" else Text.of "ro"),
    45 ≤ c ∧ c ≤ 122 := by
  cases args.readWrite <;> decide

lemma mem_options {option : Text} (h : option ∈ args.options) :
    option = Text.of "credentials=" ++ fstabEscape args.credentialPath.text ∨
      ∀ c ∈ option, 45 ≤ c ∧ c ≤ 122 := by
  obtain ⟨others, hoptions, hothers⟩ := args.exists_others
  rw [hoptions] at h
  rcases List.mem_cons.mp h with rfl | h
  · exact .inl rfl
  · rcases List.mem_cons.mp h with rfl | h
    · exact .inr access_visible
    · exact .inr (hothers option h).1

lemma credentialsOf_options :
    credentialsOf args.options = fstabUnescape (fstabEscape args.credentialPath.text) := by
  obtain ⟨others, hoptions, hothers⟩ := args.exists_others
  have hfirst : isCredentials
      (Text.of "credentials=" ++ fstabEscape args.credentialPath.text) = true :=
    List.isPrefixOf_iff_prefix.mpr (List.prefix_append _ _)
  have hno : ∀ {option : Text}, option.head? ≠ some 99 → ¬isCredentials option = true := by
    intro option hhead hpre
    obtain ⟨tail, rfl⟩ := List.isPrefixOf_iff_prefix.mp hpre
    exact hhead rfl
  have haccess : ¬isCredentials (if args.readWrite then Text.of "rw" else Text.of "ro") = true := by
    cases args.readWrite <;> decide
  have hnone : others.filter isCredentials = [] :=
    List.filter_eq_nil_iff.mpr fun option hmem => hno (hothers option hmem).2.1
  have hlength : (Text.of "credentials=").length = 12 := by decide
  unfold credentialsOf
  rw [hoptions, List.filter_cons_of_pos hfirst, List.filter_cons_of_neg haccess, hnone]
  exact congrArg fstabUnescape (List.drop_left' hlength)

lemma rw_mem_options : decide (Text.of "rw" ∈ args.options) = args.readWrite := by
  obtain ⟨others, hoptions, hothers⟩ := args.exists_others
  have hnot : Text.of "rw" ∉ others := fun h => (hothers _ h).2.2 rfl
  have hne : Text.of "rw" ≠ Text.of "credentials=" ++ fstabEscape args.credentialPath.text := by
    intro h
    cases congrArg List.head? h
  rw [hoptions]
  simp only [List.mem_cons, hne, hnot, false_or, or_false]
  cases args.readWrite <;> decide

/-! ## The pair -/

/-- The columns of the entry are words. -/
lemma Plain.words (h : Plain args) (hfeed : 10 ∉ args.mountpoint.text) :
    args.entry.words = [args.escapedSource, args.escapedTarget, Text.of "cifs",
      [44].intercalate args.options, [48], [48]] := by
  have hsource : IsPath args.share.source := by
    intro c hc hspace
    rw [h.source c hc] at hspace
    cases hspace
  obtain ⟨rest, hrest⟩ := args.exists_options
  refine Text.words_intercalate ?_
  simp only [List.forall_mem_cons, List.not_mem_nil, false_implies, implies_true, and_true]
  refine ⟨⟨escapedSource_ne_nil _, plain_escape hsource⟩,
    ⟨escape_ne_nil args.mountpoint.ne_nil hfeed, plain_escape h.mountpoint⟩,
    ⟨by decide, by decide⟩, ⟨?_, fun c hc => ?_⟩, ⟨by decide, by decide⟩, ⟨by decide, by decide⟩⟩
  · rw [hrest]
    exact List.cons_ne_nil _ _
  · obtain rfl | ⟨option, hoption, hc⟩ := Text.mem_intercalate hc
    · decide
    · rcases mem_options hoption with rfl | hvisible
      · rcases List.mem_append.mp hc with hc | hc
        · exact (by decide : ∀ c ∈ Text.of "credentials=", Text.isSpace c = false) c hc
        · exact plain_escape h.credentials.1 c hc
      · exact isSpace_of_visible (hvisible c hc)

lemma Plain.splitOn (h : Plain args) :
    ([44].intercalate args.options).splitOn 44 = args.options := by
  refine List.splitOn_intercalate _ (fun option hoption hcomma => ?_) (List.cons_ne_nil _ _)
  rcases mem_options hoption with rfl | hvisible
  · rcases List.mem_append.mp hcomma with hcomma | hcomma
    · exact absurd hcomma (by decide)
    · rcases mem_escape hcomma with ⟨hcomma, -⟩ | hcomma
      · exact h.credentials.2 hcomma
      · exact absurd hcomma (by decide)
  · exact absurd (hvisible 44 hcomma) (by decide)

/-- A text that starts and ends without a blank is stripped already. -/
lemma strip_of_ends {first last : Nat} {middle : Text} (hfirst : Text.isSpace first = false)
    (hlast : Text.isSpace last = false) :
    Text.strip (first :: (middle ++ [last])) = first :: (middle ++ [last]) := by
  unfold Text.strip
  rw [List.dropWhile_cons_of_neg (by simp [hfirst]), ← List.cons_append, List.reverse_append,
    List.reverse_singleton, List.singleton_append, List.dropWhile_cons_of_neg (by simp [hlast]),
    List.reverse_cons, List.reverse_reverse]

lemma entry_strip (args : EntryArgs) :
    ∃ middle, args.entry = 47 :: (middle ++ [48]) ∧ args.entry.strip = args.entry := by
  obtain ⟨middle, hmiddle⟩ : ∃ middle, args.entry = 47 :: (middle ++ [48]) := by
    refine ⟨47 :: (fstabEscape (args.share.spelledHost ++ 47 :: args.share.share) ++
      32 :: args.escapedTarget ++ 32 :: Text.of "cifs" ++ 32 :: [44].intercalate args.options ++
      [32, 48, 32]), ?_⟩
    have hsource : args.escapedSource = 47 :: 47 :: fstabEscape (args.share.spelledHost ++
        47 :: args.share.share) := rfl
    unfold EntryArgs.entry
    rw [hsource]
    simp [List.intercalate_cons_cons, Text.of, Text.ofChars]
  refine ⟨middle, hmiddle, ?_⟩
  rw [hmiddle]
  exact strip_of_ends (by decide) (by decide)

/-- The name of the share does not end with a blank, so the marker does not. -/
lemma marker_strip (args : EntryArgs) : args.marker.strip = args.marker := by
  obtain ⟨hne, -⟩ := isShareName_iff.mp args.share.share_name
  obtain ⟨front, last, hlast⟩ := (List.eq_nil_or_concat' args.share.share).resolve_left hne
  have hspace : Text.isSpace last = false := args.share.trimmed last (by simp [hlast])
  have hmarker : args.marker = 35 :: ((Text.of " agent-runtime-ops nas slot=" ++ args.slot ++
      Text.of " source=" ++ [47, 47] ++ args.share.spelledHost ++ 47 :: front) ++ [last]) := by
    unfold EntryArgs.marker managedFstabMarker SmbShare.source
    rw [hlast]
    have hhead : Text.of "# agent-runtime-ops nas slot=" =
        35 :: Text.of " agent-runtime-ops nas slot=" := by decide
    simp [hhead]
  rw [hmarker]
  exact strip_of_ends (by decide) hspace

lemma isBootEntry_entry (args : EntryArgs) : isBootEntry args.entry = true := by
  obtain ⟨middle, hmiddle, hstrip⟩ := entry_strip args
  unfold isBootEntry
  rw [hstrip]
  refine decide_eq_true ⟨?_, ?_, ?_⟩
  · rw [hmiddle]
    exact List.cons_ne_nil _ _
  · rw [hmiddle]
    exact (by decide : some 47 ≠ some 35)
  · refine ⟨32 :: args.escapedSource ++ 32 :: args.escapedTarget,
      [44].intercalate args.options ++ [32, 48, 32, 48, 32], ?_⟩
    simp [EntryArgs.entry, List.intercalate_cons_cons, Text.of, Text.ofChars]

lemma isBootEntry_marker (args : EntryArgs) : isBootEntry args.marker = false := by
  unfold isBootEntry
  rw [marker_strip]
  exact decide_eq_false fun h => h.2.1 rfl

/-- The slot is a word, and the share is not empty. -/
lemma markerParts_args (hslot : Text.IsWord args.slot) :
    markerParts args.marker = some (args.slot, args.share.source) :=
  markerParts_marker hslot (List.cons_ne_nil _ _)

/-- What the first reader reads. -/
lemma Plain.readEntry (h : Plain args) (hslot : Text.IsWord args.slot)
    (hfeed : 10 ∉ args.mountpoint.text) : readEntry args.marker args.entry =
      some ⟨args.slot, args.share.source, fstabUnescape args.escapedTarget, args.readWrite,
        fstabUnescape (fstabEscape args.credentialPath.text)⟩ := by
  unfold Fstab.readEntry matchMarker
  rw [markerParts_args hslot, h.words hfeed]
  dsimp only
  rw [h.splitOn, rw_mem_options, credentialsOf_options]

/-- What the third reader reads. -/
lemma Plain.readTarget (h : Plain args) (hslot : Text.IsWord args.slot)
    (hfeed : 10 ∉ args.mountpoint.text) : readTarget args.marker args.entry =
      some (args.slot, args.share.source, NasViews.fstabUnescape args.escapedTarget) := by
  have hmatch : matchManagedMarker args.marker = some (args.slot, args.share.source) := by
    unfold matchManagedMarker
    rw [markerParts_args hslot]
    refine Option.filter_some_pos (List.all_eq_true.mpr fun c hc => ?_)
    rw [h.source c hc]
    rfl
  obtain ⟨middle, hmiddle, -⟩ := entry_strip args
  unfold Fstab.readTarget
  rw [marker_strip, hmatch, h.words hfeed]
  dsimp only
  refine if_pos ⟨?_, rfl⟩
  rw [hmiddle, List.dropWhile_cons_of_neg (by decide)]
  exact (by decide : some 47 ≠ some 35)

/-- The entry is no marker. -/
lemma readTarget_entry (args : EntryArgs) (next : Text) : readTarget args.entry next = none := by
  obtain ⟨middle, hmiddle, hstrip⟩ := entry_strip args
  rcases hread : Fstab.readTarget args.entry next with _ | ⟨slot, share, target⟩
  · rfl
  · have hmarker := (readTarget_spec hread).1
    rw [hstrip, hmiddle] at hmarker
    cases congrArg List.head? hmarker

lemma entry_ne_marker (args : EntryArgs) : args.entry ≠ args.marker := by
  obtain ⟨middle, hmiddle, -⟩ := entry_strip args
  rw [hmiddle]
  intro h
  cases congrArg List.head? h

/-! ## The lines -/

variable {before behind sep : List Text}

/-- What the third reader reads from the lines that the call leaves. -/
lemma Plain.targets (h : Plain args) (hslot : Text.IsWord args.slot)
    (hfeed : 10 ∉ args.mountpoint.text) (hsep : sep = [] ∨ sep = [[]]) :
    managedFstabMountTargets (before ++ sep ++ args.marker :: args.entry :: behind) =
      managedFstabMountTargets before ++
        (args.slot, args.share.source, NasViews.fstabUnescape args.escapedTarget) ::
          managedFstabMountTargets behind := by
  have hpair : ofPairs Fstab.readTarget (args.marker :: args.entry :: behind) =
      (args.slot, args.share.source, NasViews.fstabUnescape args.escapedTarget) ::
        ofPairs Fstab.readTarget behind := by
    rw [ofPairs, h.readTarget hslot hfeed, ofPairs_cons (readTarget_entry args)]
    rfl
  have hmarker : ∀ other, Fstab.readTarget other args.marker = none := fun other =>
    readTarget_comment other _
  unfold managedFstabMountTargets
  obtain rfl | rfl := hsep
  · rw [List.append_nil, ofPairs_append hmarker, hpair]
  · rw [List.append_assoc, List.singleton_append, ofPairs_append readTarget_nil, ofPairs,
      hmarker, hpair]
    rfl

/-- What the second reader reads from them. -/
lemma bootEntryPresent_iff (hsep : sep = [] ∨ sep = [[]]) :
    bootEntryPresent args.marker (before ++ sep ++ args.marker :: args.entry :: behind) =
      unshadowed args.marker before := by
  have hpair : bootEntryPresent args.marker (args.marker :: args.entry :: behind) = true := by
    rw [bootEntryPresent, if_pos (marker_strip args)]
    exact isBootEntry_entry args
  have hblank : Text.strip [] ≠ args.marker := fun h => List.cons_ne_nil _ _ h.symm
  have hrest : bootEntryPresent args.marker (sep ++ args.marker :: args.entry :: behind) = true ∧
      (sep ++ args.marker :: args.entry :: behind).head?.any isBootEntry = false := by
    obtain rfl | rfl := hsep
    · exact ⟨hpair, isBootEntry_marker args⟩
    · refine ⟨?_, rfl⟩
      rw [List.singleton_append, bootEntryPresent, if_neg hblank]
      exact hpair
  induction before with
  | nil => exact hrest.1
  | cons line before ih =>
      rw [List.cons_append, List.cons_append, bootEntryPresent, unshadowed, ih]
      cases before with
      | nil =>
          rw [List.nil_append, hrest.2]
          rfl
      | cons next before => rfl

end entry

section run

variable {args : EntryArgs} {claimExisting : Bool} {fault : Fault} {fstab after : Option FileText}

/-- The pair stands between what the loop leaves of the lines on both sides of the first marker. -/
lemma stampedLines_split {lines : List Text} (h : ∀ line ∈ kept args.marker lines,
      blocks args.owns (fun line => claimExisting && args.sameSource line) line = false) :
    kept args.marker lines = lines.takeWhile (· ≠ args.marker) ++
        kept args.marker (lines.dropWhile (· ≠ args.marker)) ∧
      ∃ sep, (sep = [] ∨ sep = [[]]) ∧
        stampedLines args.marker args.entry (keepLine args claimExisting) lines =
          some (args.linesBefore claimExisting lines ++ sep ++
            args.marker :: args.entry :: args.linesBehind claimExisting lines) := by
  unfold EntryArgs.linesBefore EntryArgs.linesBehind
  by_cases hmem : args.marker ∈ lines
  · obtain ⟨front, rest, rfl, hfront⟩ := List.eq_append_cons_of_mem hmem
    have hall : ∀ line ∈ front, decide (line ≠ args.marker) = true := fun line hline =>
      decide_eq_true fun heq => hfront (heq ▸ hline)
    have htake : (front ++ args.marker :: rest).takeWhile (· ≠ args.marker) = front := by
      rw [List.takeWhile_append_of_pos hall, List.takeWhile_cons_of_neg (by simp), List.append_nil]
    have hdrop : (front ++ args.marker :: rest).dropWhile (· ≠ args.marker) =
        args.marker :: rest := by
      rw [List.dropWhile_append_of_pos hall, List.dropWhile_cons_of_neg (by simp)]
    have hkept : kept args.marker ([] ++ args.marker :: rest) =
        [] ++ kept args.marker (rest.drop 1) :=
      kept_append List.not_mem_nil
    rw [List.nil_append, List.nil_append] at hkept
    rw [kept_append hfront] at h
    rw [htake, hdrop, hkept, kept_append hfront]
    refine ⟨rfl, [], .inl rfl, ?_⟩
    rw [List.append_nil]
    exact stampedLines_append hfront h
  · have hall : ∀ line ∈ lines, decide (line ≠ args.marker) = true := fun line hline =>
      decide_eq_true fun heq => hmem (heq ▸ hline)
    rw [kept_of_notMem hmem] at h ⊢
    rw [List.takeWhile_eq_self_iff.mpr hall, List.dropWhile_eq_nil_iff.mpr hall]
    exact ⟨(List.append_nil _).symm, _, separator_eq _, stampedLines_of_notMem hmem h⟩

/-- What a call that does not raise leaves. -/
lemma exists_lines
    (hrun : writeManagedFstabEntry args claimExisting fault fstab = (.ok (), after)) :
    ∃ sep, (sep = [] ∨ sep = [[]]) ∧
      after.map (·.text) = some (Text.unlines
        (args.linesBefore claimExisting (readLines fstab) ++ sep ++
          args.marker :: args.entry :: args.linesBehind claimExisting (readLines fstab))) ∧
      ∀ line ∈ args.linesBefore claimExisting (readLines fstab) ++
          args.linesBehind claimExisting (readLines fstab),
        Text.IsLine line ∧ line ≠ args.marker := by
  change writePair args.marker args.entry (keepLine args claimExisting) fault fstab = _ at hrun
  unfold writePair at hrun
  rw [if_neg fun hreading => by rw [if_pos hreading] at hrun; cases hrun] at hrun
  cases hlines : stampedLines args.marker args.entry (keepLine args claimExisting)
    (readLines fstab) with
  | none =>
      rw [hlines] at hrun
      cases hrun
  | some lines =>
      have hpass : Passes (.write args claimExisting) fstab := by
        intro line hline
        refine Bool.eq_false_iff.mpr fun hblocks => ?_
        have hnone : stampedLines args.marker args.entry (keepLine args claimExisting)
          (readLines fstab) = none := stampedLines_of_blocks ⟨line, hline, hblocks⟩
        rw [hlines] at hnone
        cases hnone
      obtain ⟨hkept, sep, hsep, hstamped⟩ := stampedLines_split hpass
      rw [hlines] at hrun hstamped
      cases hstamped
      refine ⟨sep, hsep, ?_, fun line hline => ?_⟩
      · unfold replaceFstab at hrun
        dsimp only at hrun
        split_ifs at hrun
        all_goals cases hrun
        rfl
      · have hpassed := passed_disabled (lawful_write args claimExisting) hpass line
        change line ∈ (kept args.marker (readLines fstab)).map (args.left claimExisting) → _
          at hpassed
        rw [hkept, List.map_append] at hpassed
        exact ⟨(hpassed hline).isLine, (hpassed hline).ne_marker⟩

/-! ## When -/

lemma isLine_of_plain {text : Text} (h : ∀ c ∈ text, Text.isSpace c = true → c = 32) :
    Text.IsLine text := by
  intro c hc
  refine Bool.eq_false_iff.mpr fun hbreak => ?_
  rw [h c hc (Text.isSpace_of_isLineBreak hbreak)] at hbreak
  cases hbreak

/-- The lines of the pair are lines of the file. -/
lemma Plain.isLine (h : Plain args) (hslot : Text.IsWord args.slot)
    (hfeed : 10 ∉ args.mountpoint.text) : Text.IsLine args.marker ∧ Text.IsLine args.entry := by
  refine ⟨isLine_of_plain fun c hc hspace => ?_, isLine_of_plain fun c hc hspace => ?_⟩
  · unfold EntryArgs.marker managedFstabMarker at hc
    simp only [List.mem_append] at hc
    obtain ((hc | hc) | hc) | hc := hc
    · exact (by decide : ∀ c ∈ Text.of "# agent-runtime-ops nas slot=",
        Text.isSpace c = true → c = 32) c hc hspace
    · rw [hslot.plain c hc] at hspace
      cases hspace
    · exact (by decide : ∀ c ∈ Text.of " source=", Text.isSpace c = true → c = 32) c hc hspace
    · rw [h.source c hc] at hspace
      cases hspace
  · obtain rfl | ⟨column, hcolumn, hc⟩ := Text.mem_intercalate hc
    · rfl
    · have hword : column ∈ args.entry.words := by
        rw [h.words hfeed]
        exact hcolumn
      rw [(Text.isWord_of_mem_words hword).plain c hc] at hspace
      cases hspace

/-- Only what is plain is read as it was written. -/
lemma plain_of_readsBack {lines : List Text} (h : ReadsBack args lines) : Plain args := by
  obtain ⟨hfound, -⟩ := List.mem_filter.mp (h.entries ▸ List.mem_singleton_self _)
  obtain ⟨line, -, next, -, hread⟩ := exists_of_mem_ofPairs hfound
  obtain ⟨-, hmountpoint, hcredentials, hcomma⟩ := readEntry_spec hread
  obtain ⟨line', -, next', -, htarget⟩ := exists_of_mem_ofPairs h.targets
  exact ⟨(readTarget_spec htarget).2, hmountpoint, hcredentials, hcomma⟩

lemma isWord_account {account : String} (h : Routing.isLinuxAccount account.toList = true) :
    Text.IsWord (Text.of account) := by
  refine ⟨fun hnil => ?_, ?_⟩
  · have hempty : account.toList = [] := List.map_eq_nil_iff.mp hnil
    rw [hempty] at h
    cases h
  · unfold Text.of Text.ofChars
    rw [List.forall_mem_map]
    intro c hc
    refine isSpace_of_visible ?_
    obtain hletter | hdigit | rfl | rfl | rfl :=
      Routing.isPlain_iff.mp ((Routing.isLinuxAccount_chars h).1 c hc)
    · omega
    · omega
    all_goals decide

/-- **When an entry is read back as it was written.** -/
theorem readsBack_iff {account : String} (haccount : Routing.isLinuxAccount account.toList = true)
    (hslot : args.slot = Text.of account) (hmountpoint : 10 ∉ args.mountpoint.text)
    (hcredentials : 10 ∉ args.credentialPath.text)
    (hrun : writeManagedFstabEntry args claimExisting fault fstab = (.ok (), after)) :
    ReadsBack args (readLines after) ↔ Readable args claimExisting (readLines fstab) := by
  have hword : Text.IsWord args.slot := hslot ▸ isWord_account haccount
  obtain ⟨sep, hsep, htext, hlines⟩ := exists_lines hrun
  have hread : Plain args → readLines after =
      args.linesBefore claimExisting (readLines fstab) ++ sep ++
        args.marker :: args.entry :: args.linesBehind claimExisting (readLines fstab) := by
    intro hplain
    obtain ⟨hmarker, hentry⟩ := hplain.isLine hword hmountpoint
    cases after with
    | none => cases htext
    | some file =>
        show file.text.splitlines = _
        rw [show file.text = _ from Option.some.inj htext]
        refine Text.splitlines_unlines (by simp) fun line hline => ?_
        obtain rfl | rfl | hline := mem_stamped_iff.mp hline
        · exact hmarker
        · exact hentry
        · rw [List.mem_append, List.mem_append, or_right_comm, ← List.mem_append] at hline
          obtain hline | hline := hline
          · exact (hlines line hline).1
          · obtain rfl | rfl := hsep
            · exact absurd hline List.not_mem_nil
            · rw [List.mem_singleton.mp hline]
              exact fun c hc => absurd hc List.not_mem_nil
  have hentries : Plain args → (readManagedFstabEntries (readLines after)).filter
      (fun found => found.slot = args.slot ∧ found.source = args.share.source) =
        [⟨args.slot, args.share.source, fstabUnescape args.escapedTarget, args.readWrite,
          fstabUnescape (fstabEscape args.credentialPath.text)⟩] := by
    intro hplain
    rw [hread hplain]
    refine filter_ofPairs (hplain.readEntry hword hmountpoint) (decide_eq_true ⟨rfl, rfl⟩) ?_ ?_
      (entry_ne_marker args) ?_
    · intro line next found hne hfound
      refine decide_eq_false fun hsame => hne ?_
      rw [(readEntry_spec hfound).1, hsame.1, hsame.2]
      rfl
    · intro hmem
      rcases List.mem_append.mp hmem with hmem | hmem
      · exact (hlines _ (List.mem_append_left _ hmem)).2 rfl
      · obtain rfl | rfl := hsep
        · exact absurd hmem List.not_mem_nil
        · exact List.cons_ne_nil _ _ (List.mem_singleton.mp hmem)
    · exact fun hmem => (hlines _ (List.mem_append_right _ hmem)).2 rfl
  constructor
  · intro h
    have hplain := plain_of_readsBack h
    have hsame := (hentries hplain).symm.trans h.entries
    simp only [List.cons.injEq, ManagedEntry.mk.injEq, true_and, and_true] at hsame
    refine ⟨hplain, (unescape_escape_iff hmountpoint).mp hsame.1,
      (unescape_escape_iff hcredentials).mp hsame.2, ?_, ?_⟩
    · rw [← bootEntryPresent_iff hsep, ← hread hplain]
      exact h.boot
    · have htargets := h.targets
      rw [hread hplain, hplain.targets hword hmountpoint hsep, List.mem_append,
        List.mem_cons] at htargets
      obtain hbefore | htarget | hbehind := htargets
      · exact .inr ⟨_, List.mem_cons_self, hbefore⟩
      · refine .inl ((decode_escape_iff hmountpoint).mp ?_)
        exact (Prod.mk.inj (Prod.mk.inj htarget).2).2.symm
      · exact .inr ⟨_, List.mem_cons_of_mem _ List.mem_cons_self, hbehind⟩
  · intro h
    refine ⟨?_, ?_, ?_⟩
    · rw [hentries h.plain]
      unfold EntryArgs.escapedTarget
      rw [(unescape_escape_iff hmountpoint).mpr h.mountpoint_ends,
        (unescape_escape_iff hcredentials).mpr h.credentials_ends]
    · rw [hread h.plain]
      exact (bootEntryPresent_iff hsep).trans h.boot
    · rw [hread h.plain, h.plain.targets hword hmountpoint hsep, List.mem_append, List.mem_cons]
      obtain hfree | ⟨part, hpart, htarget⟩ := h.viewed
      · unfold EntryArgs.escapedTarget
        rw [(decode_escape_iff hmountpoint).mpr hfree]
        exact .inr (.inl rfl)
      · rcases List.mem_cons.mp hpart with rfl | hpart
        · exact .inl htarget
        · rw [List.mem_singleton.mp hpart] at htarget
          exact .inr (.inr htarget)

end run

section sample

/-- An entry of `oc1` for a share of `nas`. -/
def sampleArgs : EntryArgs where
  slot := Text.of "oc1"
  share := ⟨Text.of "nas", Text.of "docs", by decide, by decide, by decide⟩
  mountpoint := ⟨Text.of "/home/oc1/nas docs", by decide⟩
  credentialPath := ⟨Text.of "/root/oc1", by decide⟩
  slotUid := 1000
  dataGid := 1001
  readWrite := false

lemma Outcome.eq_ok {o : Outcome Unit} (h : o.1 = .ok ()) : o = (.ok (), o.2) := Prod.ext h rfl

theorem plain_share_read_back :
    ReadsBack sampleArgs (readLines (writeManagedFstabEntry sampleArgs false .nowhere none).2) := by
  have hrun := @Outcome.eq_ok (writeManagedFstabEntry sampleArgs false .nowhere none)
    (by decide +kernel)
  have haccount : Routing.isLinuxAccount "oc1".toList = true := by decide
  refine (readsBack_iff haccount rfl (by decide) (by decide) hrun).mpr
    ⟨⟨by decide, ?_, ?_, by decide⟩, by decide, by decide, by decide, .inl (by decide)⟩
  all_goals
    unfold IsPath
    decide

end sample

end AgentRuntimeOps.Fstab
