import AgentRuntimeOps.Fstab.Escaping

/-!
# Reading managed entries back

`read_managed_fstab_entries`, `fstab_boot_entry_present` and `managed_fstab_mount_targets` read what
`write_managed_fstab_entry` writes.  The first takes a marker as it is, the others strip the line;
all three look at the line behind it.
-/

namespace AgentRuntimeOps.Fstab

open Lib Nas

/-! ## Markers -/

/-- The slot and the source that a line names; a line has no line feed. -/
def markerParts (line : Text) : Option (Text × Text) :=
  let slot := (line.drop 29).takeWhile fun c => !Text.isSpace c
  let source := line.drop (37 + slot.length)
  if line = managedFstabMarker slot source ∧ slot ≠ [] ∧ source ≠ [] then some (slot, source)
  else none

/-- `_MARKER_RE` of `fstab.py`. -/
def matchMarker (line : Text) : Option (Text × Text) := markerParts line

/-- `_MANAGED_MARKER_RE`, whose share has no blank. -/
def matchManagedMarker (line : Text) : Option (Text × Text) :=
  (markerParts line).filter fun parts => parts.2.all fun c => !Text.isSpace c

lemma of_markerParts {line slot source : Text} (h : markerParts line = some (slot, source)) :
    line = managedFstabMarker slot source := by
  unfold markerParts at h
  dsimp only at h
  split_ifs at h with hline
  obtain ⟨rfl, rfl⟩ := Prod.mk.inj (Option.some.inj h)
  exact hline.1

lemma of_matchManagedMarker {line slot share : Text}
    (h : matchManagedMarker line = some (slot, share)) :
    line = managedFstabMarker slot share ∧ ∀ c ∈ share, Text.isSpace c = false := by
  obtain ⟨hparts, hplain⟩ := Option.filter_eq_some_iff.mp h
  refine ⟨of_markerParts hparts, fun c hc => ?_⟩
  simpa using List.all_eq_true.mp hplain c hc

lemma markerParts_marker {slot source : Text} (hslot : Text.IsWord slot) (hsource : source ≠ []) :
    markerParts (managedFstabMarker slot source) = some (slot, source) := by
  have hdrop : (managedFstabMarker slot source).drop 29 =
      slot ++ (Text.of " source=" ++ source) := by
    have hlength : (Text.of "# agent-runtime-ops nas slot=").length = 29 := by decide
    unfold managedFstabMarker
    rw [List.append_assoc]
    exact List.drop_left' hlength
  have htake : (slot ++ (Text.of " source=" ++ source)).takeWhile (fun c => !Text.isSpace c) =
      slot := by
    rw [List.takeWhile_append_of_pos fun c hc => by rw [hslot.plain c hc]; rfl]
    exact List.append_nil slot
  have hrest : (managedFstabMarker slot source).drop (37 + slot.length) = source := by
    unfold managedFstabMarker
    refine List.drop_left' ?_
    have hfirst : (Text.of "# agent-runtime-ops nas slot=").length = 29 := by decide
    have hsecond : (Text.of " source=").length = 8 := by decide
    rw [List.length_append, List.length_append]
    omega
  unfold markerParts
  dsimp only
  rw [hdrop, htake, hrest, if_pos ⟨rfl, hslot.ne_nil, hsource⟩]

/-! ## Lines and the lines behind them -/

/-- What is read from each line and the line behind it. -/
def ofPairs {α : Type} (read : Text → Text → Option α) : List Text → List α
  | line :: next :: rest => (read line next).toList ++ ofPairs read (next :: rest)
  | _ => []

section pairs

variable {α : Type} {read : Text → Text → Option α} {lines front rest : List Text}
  {marker entry line : Text} {a : α}

lemma exists_of_mem_ofPairs (h : a ∈ ofPairs read lines) :
    ∃ line ∈ lines, ∃ next ∈ lines, read line next = some a := by
  fun_induction ofPairs read lines with
  | case1 line next rest ih =>
      rcases List.mem_append.mp h with h | h
      · exact ⟨line, List.mem_cons_self, next, List.mem_cons_of_mem _ List.mem_cons_self,
          Option.mem_toList.mp h⟩
      · obtain ⟨line', hline, next', hnext, hread⟩ := ih h
        exact ⟨line', List.mem_cons_of_mem _ hline, next', List.mem_cons_of_mem _ hnext, hread⟩
  | case2 => exact absurd h List.not_mem_nil

lemma ofPairs_cons (h : ∀ next, read line next = none) :
    ofPairs read (line :: lines) = ofPairs read lines := by
  cases lines with
  | nil => rfl
  | cons next rest =>
      rw [ofPairs, h]
      rfl

/-- A line behind which nothing is read cuts the pairs. -/
lemma ofPairs_append (h : ∀ other, read other line = none) :
    ofPairs read (front ++ line :: rest) = ofPairs read front ++ ofPairs read (line :: rest) := by
  induction front with
  | nil => rfl
  | cons first front ih =>
      cases front with
      | nil =>
          show (read first line).toList ++ _ = _
          rw [h]
          rfl
      | cons second front =>
          rw [List.cons_append, List.cons_append, ofPairs, ofPairs, List.append_assoc, ← ih]
          rfl

/-- Of the values that are looked for, one stands behind the marker. -/
lemma filter_ofPairs {p : α → Bool} (hread : read marker entry = some a) (ha : p a = true)
    (hother : ∀ line next b, line ≠ marker → read line next = some b → p b = false)
    (hfront : marker ∉ front) (hentry : entry ≠ marker) (hrest : marker ∉ rest) :
    (ofPairs read (front ++ marker :: entry :: rest)).filter p = [a] := by
  have hnone : ∀ {lines : List Text}, marker ∉ lines → (ofPairs read lines).filter p = [] := by
    intro lines hlines
    refine List.filter_eq_nil_iff.mpr fun b hb => ?_
    obtain ⟨line, hline, next, -, hb⟩ := exists_of_mem_ofPairs hb
    exact Bool.eq_false_iff.mp (hother line next b (fun heq => hlines (heq ▸ hline)) hb)
  induction front with
  | nil =>
      have htail : marker ∉ entry :: rest := List.not_mem_cons_of_ne_of_not_mem hentry.symm hrest
      rw [List.nil_append, ofPairs, hread, List.filter_append, hnone htail, List.append_nil]
      exact List.filter_cons_of_pos ha
  | cons first front ih =>
      obtain ⟨hfirst, hfront⟩ := not_or.mp (mt List.mem_cons.mpr hfront)
      obtain ⟨second, tail, htail⟩ : ∃ second tail,
          front ++ marker :: entry :: rest = second :: tail :=
        List.exists_cons_of_ne_nil (List.append_ne_nil_of_right_ne_nil _ (List.cons_ne_nil _ _))
      have hskip : (read first second).toList.filter p = [] := by
        refine List.filter_eq_nil_iff.mpr fun b hb => Bool.eq_false_iff.mp ?_
        exact hother first second b (Ne.symm hfirst) (Option.mem_toList.mp hb)
      rw [List.cons_append, htail, ofPairs, List.filter_append, hskip, ← htail, ih hfront]
      rfl

end pairs

/-! ## The readers -/

/-- An entry, as it is read. -/
structure ManagedEntry where
  slot : Text
  source : Text
  mountpoint : Text
  /-- `access` is `rw`. -/
  readWrite : Bool
  credentials : Text
  deriving DecidableEq

/-- The option says which credentials are used. -/
def isCredentials (part : Text) : Bool := (Text.of "credentials=").isPrefixOf part

/-- The credentials of the last option that has some. -/
def credentialsOf (options : List Text) : Text :=
  ((options.filter isCredentials).getLast?.map fun part => fstabUnescape (part.drop 12)).getD []

/-- The entry behind a marker. -/
def readEntry (line next : Text) : Option ManagedEntry :=
  match matchMarker line, next.words with
  | some (slot, source), _ :: target :: _ :: options :: _ =>
      let options := options.splitOn 44
      some ⟨slot, source, fstabUnescape target, decide (Text.of "rw" ∈ options),
        credentialsOf options⟩
  | _, _ => none

/-- `read_managed_fstab_entries` -/
def readManagedFstabEntries (lines : List Text) : List ManagedEntry := ofPairs readEntry lines

/-- The line is a mount of a share. -/
def isBootEntry (next : Text) : Bool :=
  let entry := next.strip
  decide (entry ≠ [] ∧ entry.head? ≠ some 35 ∧ Text.of " cifs " <:+: [32] ++ entry ++ [32])

/-- The loop of `fstab_boot_entry_present`. -/
def bootEntryPresent (marker : Text) : List Text → Bool
  | [] => false
  | line :: rest =>
      if line.strip = marker then rest.head?.any isBootEntry else bootEntryPresent marker rest

/-- `fstab_boot_entry_present` -/
def fstabBootEntryPresent (slot share : Text) (lines : List Text) : Bool :=
  bootEntryPresent (managedFstabMarker slot share) lines

/-- The mount target behind a marker. -/
def readTarget (line next : Text) : Option (Text × Text × Text) :=
  match matchManagedMarker line.strip, next.words with
  | some (slot, share), _ :: target :: kind :: _ =>
      if (next.dropWhile Text.isSpace).head? ≠ some 35 ∧ kind = Text.of "cifs" then
        some (slot, share, NasViews.fstabUnescape target)
      else none
  | _, _ => none

/-- `managed_fstab_mount_targets` -/
def managedFstabMountTargets (lines : List Text) : List (Text × Text × Text) :=
  ofPairs readTarget lines

/-! ## What is read -/

lemma mem_fstabUnescape {c : Nat} {value : Text} (h : c ∈ fstabUnescape value) :
    c ∈ value ∨ c = 32 ∨ c = 9 := by
  fun_induction fstabUnescape value with
  | case1 rest ih => grind
  | case2 rest ih => grind
  | case3 d rest ih => grind
  | case4 d rest _ _ _ ih => grind
  | case5 => exact .inl h

/-- A text whose blanks are blanks of a path. -/
def IsPath (value : Text) : Prop := ∀ c ∈ value, Text.isSpace c = true → c = 32 ∨ c = 9

lemma isPath_unescape {value : Text} (h : ∀ c ∈ value, Text.isSpace c = false) :
    IsPath (fstabUnescape value) := by
  intro c hc hspace
  rcases mem_fstabUnescape hc with hc | hc
  · rw [h c hc] at hspace
    cases hspace
  · exact hc

/-- What an entry says: its paths have blanks and tabs only, and the credentials no comma. -/
lemma readEntry_spec {line next : Text} {found : ManagedEntry}
    (h : readEntry line next = some found) :
    line = managedFstabMarker found.slot found.source ∧ IsPath found.mountpoint ∧
      IsPath found.credentials ∧ 44 ∉ found.credentials := by
  unfold readEntry at h
  split at h
  case h_2 => cases h
  case h_1 slot source _ first target kind options rest hmatch hwords =>
    cases h
    have hword : ∀ w ∈ first :: target :: kind :: options :: rest, ∀ c ∈ w,
        Text.isSpace c = false := by
      intro w hw
      rw [← hwords] at hw
      exact (Text.isWord_of_mem_words hw).plain
    refine ⟨of_markerParts hmatch, isPath_unescape (hword _ (by simp)), ?_⟩
    unfold credentialsOf
    dsimp only
    cases hlast : ((options.splitOn 44).filter isCredentials).getLast? with
    | none => exact ⟨fun c hc => absurd hc List.not_mem_nil, List.not_mem_nil⟩
    | some part =>
        have hpart : part ∈ options.splitOn 44 :=
          (List.mem_filter.mp (List.mem_of_getLast? hlast)).1
        rw [List.splitOn_eq_splitOnP] at hpart
        have hplain : ∀ c ∈ part.drop 12, Text.isSpace c = false := fun c hc =>
          hword _ (by simp) c (Text.subset_of_mem_splitOnP hpart (List.mem_of_mem_drop hc))
        refine ⟨isPath_unescape hplain, fun hcomma => ?_⟩
        rcases mem_fstabUnescape hcomma with hcomma | hcomma | hcomma
        · have := Text.eq_false_of_mem_splitOnP hpart 44 (List.mem_of_mem_drop hcomma)
          exact absurd this (by decide)
        · exact absurd hcomma (by decide)
        · exact absurd hcomma (by decide)

lemma readTarget_spec {line next slot share target : Text}
    (h : readTarget line next = some (slot, share, target)) :
    line.strip = managedFstabMarker slot share ∧ ∀ c ∈ share, Text.isSpace c = false := by
  unfold readTarget at h
  split at h
  case h_2 => cases h
  case h_1 hmatch hwords =>
    split_ifs at h
    cases h
    exact of_matchManagedMarker hmatch

/-- Nothing is read from a comment. -/
lemma readTarget_comment (line rest : Text) : readTarget line (35 :: rest) = none := by
  unfold readTarget
  split
  · rw [if_neg]
    rw [List.dropWhile_cons_of_neg (by decide)]
    exact fun h => h.1 rfl
  · rfl

lemma readTarget_nil (line : Text) : readTarget line [] = none := by
  unfold readTarget
  rw [Text.words_nil]
  split
  · rename_i heq
    cases heq
  · rfl

end AgentRuntimeOps.Fstab
