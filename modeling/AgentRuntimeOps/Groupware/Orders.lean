import AgentRuntimeOps.Groupware.Search

/-!
# The order of a directory

The system lists the entries of a directory in any order, and the search stops at the first file.
`probe_order_iff` says when the outcome, and with it the status of an observation, does not depend
on the order.
-/

namespace AgentRuntimeOps.Groupware

/-! ## Orders and bounds -/

/-- The same tree, with the entries of its directories in another order. -/
inductive Reordered : Dir → Dir → Prop where
  | perm {entries entries' : List Entry} {fault : Option Nat} (h : entries.Perm entries') :
      Reordered (.mk entries fault) (.mk entries' fault)
  | inside {before after : List Entry} {stat fault : Option Nat} {child child' : Dir}
      (h : Reordered child child') :
      Reordered (.mk (before ++ ⟨stat, .directory (.ok child)⟩ :: after) fault)
        (.mk (before ++ ⟨stat, .directory (.ok child')⟩ :: after) fault)
  | trans {dir dir' dir'' : Dir} (h : Reordered dir dir') (h' : Reordered dir' dir'') :
      Reordered dir dir''

/-- No directory is longer than its bound, down to a number of levels. -/
def Bounded (levels : Nat) (dir : Dir) : Prop :=
  dir.entries.length ≤ maxDirectoryEntries ∧
    match levels with
    | 0 => True
    | levels + 1 => ∀ entry ∈ dir.entries, ∀ child, entry.kind = .directory (.ok child) →
        Bounded levels child

/-- The tree stays within the bounds of the search. -/
def WithinBounds (dir : Dir) : Prop :=
  Bounded maxProbeDepth dir ∧ size maxProbeDepth dir ≤ maxProbeEntries

/-! ## What may be reported -/

/-- The outcome that an entry ends the search with. -/
def EntryOf.outcome (entry : Entry) : Option FailureClass :=
  match entry.stat, entry.kind with
  | some errno, _ => some (ProbeRow.openFailed errno).boundedProbeOutcome
  | none, .regular (.ok ()) => some ProbeRow.regularFile.boundedProbeOutcome
  | none, .regular (.error errno) => some (ProbeRow.openFailed errno).boundedProbeOutcome
  | none, _ => none

/-- The error that a listing is seen to end with. -/
def Dir.seenFault (dir : Dir) : Option Nat :=
  if dir.entries.length < maxDirectoryEntries then dir.fault else none

/-- The outcomes that may be met first: the one of a listing that fails, or those of the files and
of what has no status, or those of the directories below. -/
def found (levels : Nat) (dir : Dir) : List FailureClass :=
  match dir.seenFault with
  | some errno => [(ProbeRow.scanFailed errno).boundedProbeOutcome]
  | none =>
      match dir.entries.filterMap EntryOf.outcome with
      | outcome :: more => outcome :: more
      | [] =>
          match levels with
          | 0 => []
          | levels + 1 => dir.entries.flatMap fun entry =>
              match entry.kind with
              | .directory (.ok child) => found levels child
              | _ => []

/-- All that may be met first has the same outcome. -/
def Unanimous (dir : Dir) : Prop :=
  ∀ outcome ∈ found maxProbeDepth dir, ∀ outcome' ∈ found maxProbeDepth dir, outcome = outcome'

/-! ## Paths -/

/-- A declared path: what the mount tables say of it, and its directory or the error of opening it.
-/
structure DeclaredPath where
  hostMount : MountState
  containerMount : MountState
  opened : Except Nat Dir

namespace DeclaredPath

/-- `False, False, exc.errno, "directory_open_failed"` -/
def directoryOpenFailed (errno : Nat) : ProbeRow :=
  ⟨some false, some false, some errno, .directoryOpenFailed⟩

/-- The row of a path, whatever order the system lists the directories in. -/
def Row (path : DeclaredPath) (row : ProbeRow) : Prop :=
  match path.opened with
  | .error errno => row = directoryOpenFailed errno
  | .ok dir => ∃ listed, Reordered dir listed ∧ row = boundedRead listed

/-- The probe of a path. -/
def Probed (path : DeclaredPath) (probe : DeclaredPathProbe) : Prop :=
  probe.hostMount = path.hostMount ∧ probe.containerMount = path.containerMount ∧ path.Row probe.row

/-- The outcome is the same in every order. -/
def OrderFree (path : DeclaredPath) : Prop :=
  ∀ row row', path.Row row → path.Row row' → row.boundedProbeOutcome = row'.boundedProbeOutcome

end DeclaredPath

/-! ## Reordering -/

variable {levels seen : Nat} {dir dir' : Dir} {entries : List Entry}

@[simp] lemma Reordered.refl (dir : Dir) : Reordered dir dir := by
  cases dir with
  | mk entries fault => exact .perm (List.Perm.refl _)

lemma size_eq_of_reordered (h : Reordered dir dir') (levels : Nat) :
    size levels dir = size levels dir' := by
  induction h generalizing levels with
  | perm h =>
      rw [size.eq_def, size.eq_def]
      dsimp only [Dir.entries]
      rw [h.length_eq]
      cases levels with
      | zero => rfl
      | succ levels => exact congrArg _ (h.map _).sum_eq
  | inside h ih =>
      rw [size.eq_def, size.eq_def levels (Dir.mk _ _)]
      dsimp only [Dir.entries]
      cases levels with
      | zero => rw [List.length_append, List.length_append, List.length_cons, List.length_cons]
      | succ levels =>
          simp only [List.map_append, List.map_cons, List.length_append, List.length_cons,
            ih levels]
  | trans h h' ih ih' => exact (ih levels).trans (ih' levels)

lemma bounded_of_reordered (h : Reordered dir dir') (levels : Nat) (hbounded : Bounded levels dir) :
    Bounded levels dir' := by
  induction h generalizing levels with
  | perm h =>
      rw [Bounded.eq_def] at hbounded ⊢
      dsimp only [Dir.entries] at hbounded ⊢
      refine ⟨h.length_eq ▸ hbounded.1, ?_⟩
      cases levels with
      | zero => trivial
      | succ levels => exact fun entry hentry => hbounded.2 entry (h.mem_iff.mpr hentry)
  | @inside before after stat fault child child' h ih =>
      rw [Bounded.eq_def] at hbounded ⊢
      dsimp only [Dir.entries] at hbounded ⊢
      refine ⟨?_, ?_⟩
      · have hlength := hbounded.1
        rw [List.length_append, List.length_cons] at hlength ⊢
        exact hlength
      · cases levels with
        | zero => trivial
        | succ levels =>
            intro entry hentry below hbelow
            rcases List.mem_append.mp hentry with hmem | hmem
            · exact hbounded.2 entry (List.mem_append_left _ hmem) below hbelow
            · rcases List.mem_cons.mp hmem with rfl | hmem
              · cases hbelow
                exact ih levels (hbounded.2 ⟨stat, .directory (.ok child)⟩
                  (List.mem_append_right _ List.mem_cons_self) child rfl)
              · exact hbounded.2 entry
                  (List.mem_append_right _ (List.mem_cons_of_mem _ hmem)) below hbelow
  | trans h h' ih ih' => exact ih' levels (ih levels hbounded)

/-- What is below an entry. -/
def EntryOf.found (levels : Nat) (entry : Entry) : List FailureClass :=
  match entry.kind with
  | .directory (.ok child) => Groupware.found levels child
  | _ => []

/-- The outcomes of some entries. -/
def foundAmong (levels : Nat) (entries : List Entry) : List FailureClass :=
  match entries.filterMap EntryOf.outcome with
  | outcome :: more => outcome :: more
  | [] =>
      match levels with
      | 0 => []
      | levels + 1 => entries.flatMap (EntryOf.found levels)

lemma found_eq (levels : Nat) (dir : Dir) :
    found levels dir =
      match dir.seenFault with
      | some errno => [(ProbeRow.scanFailed errno).boundedProbeOutcome]
      | none => foundAmong levels dir.entries := by
  rw [found.eq_def]
  cases dir.seenFault with
  | some errno => rfl
  | none =>
      unfold foundAmong
      cases dir.entries.filterMap EntryOf.outcome with
      | cons outcome more => rfl
      | nil =>
          cases levels with
          | zero => rfl
          | succ levels => rfl

lemma foundAmong_perm {entries' : List Entry} (h : entries.Perm entries') :
    (foundAmong levels entries).Perm (foundAmong levels entries') := by
  have hfiles := h.filterMap EntryOf.outcome
  unfold foundAmong
  cases hfound : entries.filterMap EntryOf.outcome with
  | cons outcome more =>
      rw [hfound] at hfiles
      cases hfound' : entries'.filterMap EntryOf.outcome with
      | cons outcome' more' => rwa [hfound'] at hfiles
      | nil =>
          rw [hfound'] at hfiles
          cases hfiles.eq_nil
  | nil =>
      rw [hfound] at hfiles
      rw [hfiles.nil_eq.symm]
      cases levels with
      | zero => exact List.Perm.refl _
      | succ levels => exact h.flatMap_right _

lemma seenFault_eq_of_reordered (h : Reordered dir dir') : dir.seenFault = dir'.seenFault := by
  induction h with
  | perm h =>
      unfold Dir.seenFault
      exact if_congr (iff_of_eq (congrArg (· < maxDirectoryEntries) h.length_eq)) rfl rfl
  | inside h =>
      simp only [Dir.seenFault, Dir.entries, Dir.fault, List.length_append, List.length_cons]
  | trans h h' ih ih' => exact ih.trans ih'

/-- A directory ends the search only by its status. -/
lemma outcome_directory {stat : Option Nat} {opened opened' : Except Nat Dir} :
    EntryOf.outcome ⟨stat, .directory opened⟩ = EntryOf.outcome ⟨stat, .directory opened'⟩ := by
  cases stat with
  | none => rfl
  | some errno => rfl

/-- What may be met first does not depend on the order. -/
lemma found_perm (h : Reordered dir dir') (levels : Nat) :
    (found levels dir).Perm (found levels dir') := by
  induction h generalizing levels with
  | perm h =>
      rw [found_eq, found_eq, seenFault_eq_of_reordered (.perm h)]
      split
      · exact List.Perm.refl _
      · exact foundAmong_perm h
  | @inside before after stat fault child child' h ih =>
      rw [found_eq, found_eq, seenFault_eq_of_reordered (.inside h)]
      split
      · exact List.Perm.refl _
      · have hfiles : (before ++ ⟨stat, .directory (.ok child)⟩ :: after : List Entry).filterMap
            EntryOf.outcome = (before ++ ⟨stat, .directory (.ok child')⟩ :: after).filterMap
              EntryOf.outcome := by
          rw [List.filterMap_append, List.filterMap_append, List.filterMap_cons,
            List.filterMap_cons, outcome_directory]
        dsimp only [Dir.entries]
        unfold foundAmong
        rw [hfiles]
        split
        · exact List.Perm.refl _
        · cases levels with
          | zero => exact List.Perm.refl _
          | succ levels =>
              dsimp only
              rw [List.flatMap_append, List.flatMap_append, List.flatMap_cons, List.flatMap_cons]
              exact ((ih levels).append_right _).append_left _
  | trans h h' ih ih' => exact (ih levels).trans (ih' levels)

/-! ## What is reported within the bounds -/

/-- The first loop, by the outcomes of the entries. -/
lemma readFirst_outcome (entries : List Entry) :
    (readFirst entries).map ProbeRow.boundedProbeOutcome =
      (entries.filterMap EntryOf.outcome).head? := by
  induction entries with
  | nil => rfl
  | cons entry entries ih =>
      obtain ⟨stat, kind⟩ := entry
      rw [List.filterMap_cons]
      cases stat with
      | some errno => rfl
      | none =>
          rcases kind with (errno | _) | opened | _
          · rfl
          · rfl
          · exact ih
          · exact ih

/-- The entries of a bounded directory are all listed, and the search can pay for them. -/
lemma walk_of_bounded (hlength : dir.entries.length ≤ maxDirectoryEntries)
    (hbudget : seen + dir.entries.length ≤ maxProbeEntries) :
    walk levels dir seen =
      match dir.seenFault with
      | some errno => (.scanFailed errno, seen + dir.entries.length)
      | none =>
          match readFirst dir.entries with
          | some row => (row, seen + dir.entries.length)
          | none =>
              match levels with
              | 0 => (.noRegularFile, seen + dir.entries.length)
              | levels + 1 =>
                  match descend (walk levels) dir.entries (seen + dir.entries.length) with
                  | (some row, seen) => (row, seen)
                  | (none, seen) => (.noRegularFile, seen) := by
  have hlisted : dir.listed = dir.entries := List.take_of_length_le hlength
  have haffordable : (⟨dir, seen, levels⟩ : Visit).Affordable := .inr (by rwa [hlisted])
  have hafter : (⟨dir, seen, levels⟩ : Visit).seenAfter = seen + dir.entries.length := by
    rw [Visit.seenAfter, if_pos haffordable, hlisted]
  rw [walk_eq]
  dsimp only
  rw [if_pos haffordable, hafter, hlisted]
  rfl

/-- What a search of a directory within the bounds returns, and what it has seen when it goes on. -/
structure Reports (levels : Nat) (dir : Dir) (seen : Nat) : Prop where
  mem : ¬(walk levels dir seen).1.Quiet →
    (walk levels dir seen).1.boundedProbeOutcome ∈ found levels dir
  none : (walk levels dir seen).1.Quiet → found levels dir = [] ∧
    (walk levels dir seen).1 = .noRegularFile ∧
    (walk levels dir seen).2 = seen + size levels dir

/-- The loop over the directories, within the bounds. -/
lemma reports_descend (hchildren : ∀ entry ∈ entries, ∀ child, entry.kind = .directory (.ok child) →
      ∀ seen, seen + size levels child ≤ maxProbeEntries → Reports levels child seen)
    (hbudget : seen + (entries.map fun entry =>
        match entry.kind with
        | .directory (.ok child) => size levels child
        | _ => 0).sum ≤ maxProbeEntries) :
    (∀ row, (descend (walk levels) entries seen).1 = some row →
      ¬row.Quiet ∧ row.boundedProbeOutcome ∈ entries.flatMap (EntryOf.found levels)) ∧
    ((descend (walk levels) entries seen).1 = none →
      entries.flatMap (EntryOf.found levels) = [] ∧
        (descend (walk levels) entries seen).2 = seen + (entries.map fun entry =>
          match entry.kind with
          | .directory (.ok child) => size levels child
          | _ => 0).sum) := by
  induction entries generalizing seen with
  | nil => exact ⟨nofun, fun _ => ⟨rfl, rfl⟩⟩
  | cons entry entries ih =>
      obtain ⟨stat, kind⟩ := entry
      rw [List.map_cons, List.sum_cons] at hbudget ⊢
      rw [List.flatMap_cons]
      rw [List.forall_mem_cons] at hchildren
      rcases kind with read | (errno | child) | _
      · rw [Nat.zero_add] at hbudget ⊢
        exact ih hchildren.2 hbudget
      · rw [Nat.zero_add] at hbudget ⊢
        exact ih hchildren.2 hbudget
      · rw [← Nat.add_assoc] at hbudget ⊢
        have hchild := hchildren.1 child rfl seen ((Nat.le_add_right _ _).trans hbudget)
        by_cases hquiet : (walk levels child seen).1.Quiet
        · obtain ⟨hnone, -, hafter⟩ := hchild.none hquiet
          have hdescend : descend (walk levels) (⟨stat, .directory (.ok child)⟩ :: entries) seen =
              descend (walk levels) entries (walk levels child seen).2 := if_pos hquiet
          have hfound : EntryOf.found levels ⟨stat, .directory (.ok child)⟩ = [] := hnone
          rw [hdescend, hafter, hfound, List.nil_append]
          exact ih hchildren.2 hbudget
        · have hdescend : descend (walk levels) (⟨stat, .directory (.ok child)⟩ :: entries) seen =
              (some (walk levels child seen).1, (walk levels child seen).2) := if_neg hquiet
          rw [hdescend]
          refine ⟨?_, nofun⟩
          rintro row ⟨⟩
          exact ⟨hquiet, List.mem_append_left _ (hchild.mem hquiet)⟩
      · rw [Nat.zero_add] at hbudget ⊢
        exact ih hchildren.2 hbudget

/-- What the first loop returns is the outcome of a file. -/
lemma mem_foundAmong_of_readFirst {row : ProbeRow} (h : readFirst entries = some row) :
    row.boundedProbeOutcome ∈ foundAmong levels entries := by
  have hhead := readFirst_outcome entries
  rw [h, Option.map_some] at hhead
  unfold foundAmong
  cases hfiles : entries.filterMap EntryOf.outcome with
  | nil =>
      rw [hfiles] at hhead
      cases hhead
  | cons outcome more =>
      rw [hfiles, List.head?_cons, Option.some.injEq] at hhead
      exact List.mem_cons.mpr (.inl hhead)

/-- Where the first loop returns nothing, there are no files. -/
lemma filterMap_outcome_of_readFirst (h : readFirst entries = none) :
    entries.filterMap EntryOf.outcome = [] := by
  have hhead := readFirst_outcome entries
  rw [h, Option.map_none] at hhead
  exact List.head?_eq_none_iff.mp hhead.symm

/-- A listing that fails or a file ends the search at once. -/
lemma reports_early (hlength : dir.entries.length ≤ maxDirectoryEntries)
    (hbudget : seen + dir.entries.length ≤ maxProbeEntries)
    (h : dir.seenFault = none → readFirst dir.entries ≠ none) :
    ¬(walk levels dir seen).1.Quiet ∧
      (walk levels dir seen).1.boundedProbeOutcome ∈ found levels dir := by
  rw [walk_of_bounded hlength hbudget, found_eq]
  cases hfault : dir.seenFault with
  | some errno => exact ⟨fun hquiet => hquiet.2.elim nofun nofun, List.mem_singleton_self _⟩
  | none =>
      obtain ⟨row, hrow⟩ := Option.ne_none_iff_exists'.mp (h hfault)
      rw [hrow]
      exact ⟨not_quiet_of_readFirst hrow, mem_foundAmong_of_readFirst hrow⟩

/-- What a search reports within the bounds is one of the outcomes that may be met first. -/
lemma reports_of_bounded (hbounded : Bounded levels dir)
    (hbudget : seen + size levels dir ≤ maxProbeEntries) : Reports levels dir seen := by
  induction levels generalizing dir seen with
  | zero =>
      by_cases h : dir.seenFault = none → readFirst dir.entries ≠ none
      · obtain ⟨hloud, hmem⟩ := @reports_early 0 _ _ hbounded.1 hbudget h
        exact ⟨fun _ => hmem, fun hquiet => absurd hquiet hloud⟩
      · simp only [Classical.not_imp, not_not] at h
        obtain ⟨hfault, hread⟩ := h
        have hwalk : walk 0 dir seen = (.noRegularFile, seen + dir.entries.length) := by
          rw [walk_of_bounded hbounded.1 hbudget, hfault, hread]
        have hfound : found 0 dir = [] := by
          rw [found_eq, hfault, foundAmong, filterMap_outcome_of_readFirst hread]
        refine ⟨fun hloud => ?_, fun _ => ⟨hfound, by rw [hwalk], by rw [hwalk]; rfl⟩⟩
        rw [hwalk] at hloud
        exact absurd quiet_noRegularFile hloud
  | succ levels ih =>
      rw [size, ← Nat.add_assoc] at hbudget
      have hdir : seen + dir.entries.length ≤ maxProbeEntries :=
        (Nat.le_add_right _ _).trans hbudget
      by_cases h : dir.seenFault = none → readFirst dir.entries ≠ none
      · obtain ⟨hloud, hmem⟩ := @reports_early (levels + 1) _ _ hbounded.1 hdir h
        exact ⟨fun _ => hmem, fun hquiet => absurd hquiet hloud⟩
      · simp only [Classical.not_imp, not_not] at h
        obtain ⟨hfault, hread⟩ := h
        have hwalk : walk (levels + 1) dir seen =
            match descend (walk levels) dir.entries (seen + dir.entries.length) with
            | (some row, seen) => (row, seen)
            | (none, seen) => (.noRegularFile, seen) := by
          rw [walk_of_bounded hbounded.1 hdir, hfault, hread]
        have hfound : found (levels + 1) dir = dir.entries.flatMap (EntryOf.found levels) := by
          rw [found_eq, hfault, foundAmong, filterMap_outcome_of_readFirst hread]
        obtain ⟨hsome, hnone⟩ := reports_descend
          (fun entry hentry child hkind seen hseen =>
            ih (hbounded.2 entry hentry child hkind) hseen)
          hbudget
        cases hdescend : descend (walk levels) dir.entries (seen + dir.entries.length) with
        | mk result after =>
            rw [hdescend] at hwalk hsome hnone
            cases result with
            | some row =>
                obtain ⟨hloud, hmem⟩ := hsome row rfl
                refine ⟨fun _ => ?_, fun hquiet => ?_⟩
                · rw [hwalk, hfound]
                  exact hmem
                · rw [hwalk] at hquiet
                  exact absurd hquiet hloud
            | none =>
                obtain ⟨hempty, hafter⟩ := hnone rfl
                refine ⟨fun hloud => ?_, fun _ => ⟨hfound.trans hempty, by rw [hwalk], ?_⟩⟩
                · rw [hwalk] at hloud
                  exact absurd quiet_noRegularFile hloud
                · rw [hwalk, size, ← Nat.add_assoc]
                  exact hafter

/-! ## Every outcome is met in some order -/

/-- The search answers with the outcome, whatever it has seen before within its budget. -/
def Answers (levels : Nat) (dir : Dir) (outcome : FailureClass) : Prop :=
  ∀ seen, seen + size levels dir ≤ maxProbeEntries →
    ¬(walk levels dir seen).1.Quiet ∧ (walk levels dir seen).1.boundedProbeOutcome = outcome

lemma entries_le_size (levels : Nat) (dir : Dir) : dir.entries.length ≤ size levels dir := by
  rw [size.eq_def]
  exact Nat.le_add_right _ _

/-- The outcome of the first file is the answer. -/
lemma answers_of_head {outcome : FailureClass} (hbounded : Bounded levels dir)
    (hfault : dir.seenFault = none)
    (hhead : (dir.entries.filterMap EntryOf.outcome).head? = some outcome) :
    Answers levels dir outcome := by
  intro seen hseen
  rw [Bounded.eq_def] at hbounded
  rw [walk_of_bounded hbounded.1 ((Nat.add_le_add_left (entries_le_size levels dir) _).trans hseen),
    hfault]
  rw [← readFirst_outcome] at hhead
  obtain ⟨row, hrow, rfl⟩ := Option.map_eq_some_iff.mp hhead
  rw [hrow]
  exact ⟨not_quiet_of_readFirst hrow, rfl⟩

/-- The answer of the first directory is the answer, where there are no files. -/
lemma answers_of_child {outcome : FailureClass} {child : Dir} {stat : Option Nat}
    {rest : List Entry} (hbounded : Bounded (levels + 1) dir) (hfault : dir.seenFault = none)
    (hfiles : dir.entries.filterMap EntryOf.outcome = [])
    (hentries : dir.entries = ⟨stat, .directory (.ok child)⟩ :: rest)
    (hchild : Answers levels child outcome) : Answers (levels + 1) dir outcome := by
  intro seen hseen
  have hread : readFirst dir.entries = none := by
    rw [← Option.map_eq_none_iff, readFirst_outcome, hfiles]
    rfl
  have hbudget : seen + dir.entries.length + size levels child ≤ maxProbeEntries := by
    rw [size, ← Nat.add_assoc] at hseen
    refine (Nat.add_le_add_left ?_ _).trans hseen
    rw [hentries, List.map_cons, List.sum_cons]
    exact Nat.le_add_right _ _
  obtain ⟨hloud, houtcome⟩ := hchild _ hbudget
  have hdescend : descend (walk levels) dir.entries (seen + dir.entries.length) =
      (some (walk levels child (seen + dir.entries.length)).1,
        (walk levels child (seen + dir.entries.length)).2) := by
    rw [hentries] at hloud ⊢
    exact if_neg hloud
  rw [walk_of_bounded hbounded.1 ((Nat.le_add_right _ _).trans hbudget), hfault, hread]
  dsimp only
  rw [hdescend]
  exact ⟨hloud, houtcome⟩

/-- The entry can be listed first. -/
lemma reordered_first {entry : Entry} (h : entry ∈ dir.entries) :
    ∃ rest, (entry :: rest).Perm dir.entries ∧
      Reordered dir (.mk (entry :: rest) dir.fault) := by
  obtain ⟨before, after, hentries⟩ := List.append_of_mem h
  have hperm : (entry :: (before ++ after)).Perm dir.entries := by
    rw [hentries]
    exact List.perm_middle.symm
  refine ⟨before ++ after, hperm, ?_⟩
  cases dir with
  | mk entries fault => exact .perm hperm.symm

/-- A listing that fails is the answer. -/
lemma answers_of_fault {errno : Nat} (hbounded : Bounded levels dir)
    (hfault : dir.seenFault = some errno) :
    Answers levels dir (ProbeRow.scanFailed errno).boundedProbeOutcome := by
  intro seen hseen
  rw [Bounded.eq_def] at hbounded
  rw [walk_of_bounded hbounded.1 ((Nat.add_le_add_left (entries_le_size levels dir) _).trans hseen),
    hfault]
  exact ⟨fun hquiet => hquiet.2.elim nofun nofun, rfl⟩

/-- The outcome of every file is the answer in some order. -/
lemma exists_order_file {outcome : FailureClass} (hbounded : Bounded levels dir)
    (hfault : dir.seenFault = none) (h : outcome ∈ dir.entries.filterMap EntryOf.outcome) :
    ∃ dir', Reordered dir dir' ∧ Answers levels dir' outcome := by
  obtain ⟨entry, hentry, houtcome⟩ := List.mem_filterMap.mp h
  obtain ⟨rest, -, hreordered⟩ := reordered_first hentry
  refine ⟨_, hreordered, answers_of_head (bounded_of_reordered hreordered levels hbounded)
    ((seenFault_eq_of_reordered hreordered).symm.trans hfault) ?_⟩
  rw [Dir.entries, List.filterMap_cons_some houtcome]
  rfl

/-- Every outcome that may be met first is the answer in some order. -/
lemma exists_order {outcome : FailureClass} (hbounded : Bounded levels dir)
    (h : outcome ∈ found levels dir) :
    ∃ dir', Reordered dir dir' ∧ Answers levels dir' outcome := by
  induction levels generalizing dir with
  | zero =>
      rw [found_eq] at h
      cases hfault : dir.seenFault with
      | some errno =>
          rw [hfault] at h
          obtain rfl := List.mem_singleton.mp h
          exact ⟨dir, .refl dir, answers_of_fault hbounded hfault⟩
      | none =>
          rw [hfault] at h
          refine exists_order_file hbounded hfault ?_
          dsimp only at h
          unfold foundAmong at h
          split at h
          case h_1 hfiles => rwa [hfiles]
          case h_2 => exact absurd h List.not_mem_nil
  | succ levels ih =>
      rw [found_eq] at h
      cases hfault : dir.seenFault with
      | some errno =>
          rw [hfault] at h
          obtain rfl := List.mem_singleton.mp h
          exact ⟨dir, .refl dir, answers_of_fault hbounded hfault⟩
      | none =>
          rw [hfault] at h
          dsimp only at h
          unfold foundAmong at h
          split at h
          case h_1 hfiles => exact exists_order_file hbounded hfault (by rwa [hfiles])
          case h_2 hfiles =>
            obtain ⟨⟨stat, kind⟩, hentry, hbelow⟩ := List.mem_flatMap.mp h
            rcases kind with read | (errno | child) | _
            · exact absurd hbelow List.not_mem_nil
            · exact absurd hbelow List.not_mem_nil
            · obtain ⟨child', hchild, hanswers⟩ :=
                ih (hbounded.2 _ hentry child rfl) hbelow
              obtain ⟨rest, hperm, hfirst⟩ := reordered_first hentry
              have hreordered : Reordered dir
                  (.mk (⟨stat, .directory (.ok child')⟩ :: rest) dir.fault) :=
                hfirst.trans (@Reordered.inside [] _ _ _ _ _ hchild)
              have hnone : (⟨stat, .directory (.ok child')⟩ :: rest).filterMap
                  EntryOf.outcome = [] := by
                have hempty := hperm.filterMap EntryOf.outcome
                rw [hfiles, List.perm_nil, List.filterMap_cons] at hempty
                rwa [List.filterMap_cons, outcome_directory]
              exact ⟨_, hreordered, answers_of_child
                (bounded_of_reordered hreordered _ hbounded)
                ((seenFault_eq_of_reordered hreordered).symm.trans hfault) hnone rfl hanswers⟩
            · exact absurd hbelow List.not_mem_nil

/-! ## Orders and outcomes -/

/-- The outcome in an order is one of those that may be met first, or there are none. -/
lemma outcome_mem (hbounds : WithinBounds dir) (h : Reordered dir dir') :
    (boundedRead dir').boundedProbeOutcome ∈ found maxProbeDepth dir ∨
      found maxProbeDepth dir = [] ∧ boundedRead dir' = .noRegularFile := by
  have hreports := @reports_of_bounded _ 0 _
    (bounded_of_reordered h maxProbeDepth hbounds.1)
    (by rw [Nat.zero_add, ← size_eq_of_reordered h]; exact hbounds.2)
  by_cases hquiet : (boundedRead dir').Quiet
  · obtain ⟨hnone, hrow, -⟩ := hreports.none hquiet
    have hperm := found_perm h maxProbeDepth
    rw [hnone, List.perm_nil] at hperm
    exact .inr ⟨hperm, hrow⟩
  · exact .inl ((found_perm h maxProbeDepth).mem_iff.mpr (hreports.mem hquiet))

/-- The outcome of a tree within the bounds is the same in every order exactly if all that may be
met first has one outcome. -/
lemma outcome_eq_iff (hbounds : WithinBounds dir) :
    (∀ dir₁ dir₂, Reordered dir dir₁ → Reordered dir dir₂ →
      (boundedRead dir₁).boundedProbeOutcome = (boundedRead dir₂).boundedProbeOutcome) ↔
      Unanimous dir := by
  constructor
  · intro h outcome houtcome outcome' houtcome'
    obtain ⟨dir₁, hdir₁, hanswers⟩ := exists_order hbounds.1 houtcome
    obtain ⟨dir₂, hdir₂, hanswers'⟩ := exists_order hbounds.1 houtcome'
    have hsize : ∀ listed, Reordered dir listed →
        0 + size maxProbeDepth listed ≤ maxProbeEntries := fun listed hlisted => by
      rw [Nat.zero_add, ← size_eq_of_reordered hlisted]
      exact hbounds.2
    rw [← (hanswers 0 (hsize _ hdir₁)).2, ← (hanswers' 0 (hsize _ hdir₂)).2]
    exact h dir₁ dir₂ hdir₁ hdir₂
  · intro hsame dir₁ dir₂ hdir₁ hdir₂
    rcases outcome_mem hbounds hdir₁ with hmem | ⟨hnone, hrow⟩
    · rcases outcome_mem hbounds hdir₂ with hmem' | ⟨hnone, -⟩
      · exact hsame _ hmem _ hmem'
      · rw [hnone] at hmem
        exact absurd hmem List.not_mem_nil
    · rcases outcome_mem hbounds hdir₂ with hmem' | ⟨-, hrow'⟩
      · rw [hnone] at hmem'
        exact absurd hmem' List.not_mem_nil
      · rw [hrow, hrow']

namespace DeclaredPath

/-- The directory, if it can be opened, stays within the bounds. -/
def Within (path : DeclaredPath) : Prop := ∀ dir, path.opened = .ok dir → WithinBounds dir

/-- All that may be met first in the directory has the same outcome. -/
def Agrees (path : DeclaredPath) : Prop := ∀ dir, path.opened = .ok dir → Unanimous dir

lemma orderFree_iff {path : DeclaredPath} (hwithin : path.Within) :
    path.OrderFree ↔ path.Agrees := by
  obtain ⟨hostMount, containerMount, opened⟩ := path
  cases opened with
  | error errno =>
      refine iff_of_true ?_ nofun
      rintro row row' rfl rfl
      rfl
  | ok dir =>
      have hiff := outcome_eq_iff (hwithin dir rfl)
      constructor
      · rintro h _ ⟨⟩
        exact hiff.mp fun dir₁ dir₂ hdir₁ hdir₂ => h _ _ ⟨dir₁, hdir₁, rfl⟩ ⟨dir₂, hdir₂, rfl⟩
      · rintro h row row' ⟨dir₁, hdir₁, rfl⟩ ⟨dir₂, hdir₂, rfl⟩
        exact hiff.mpr (h dir rfl) dir₁ dir₂ hdir₁ hdir₂

/-- The probes of a path have one failure class where its outcome is the same in every order. -/
lemma failureClass_eq {path : DeclaredPath} (h : path.OrderFree) {probe probe' : DeclaredPathProbe}
    (hprobe : path.Probed probe) (hprobe' : path.Probed probe') :
    probe.failureClass = probe'.failureClass := by
  obtain ⟨hhost, hcontainer, hrow⟩ := hprobe
  obtain ⟨hhost', hcontainer', hrow'⟩ := hprobe'
  unfold DeclaredPathProbe.failureClass DeclaredPathProbe.mountFailureClass
  rw [hhost, hcontainer, hhost', hcontainer', h _ _ hrow hrow']

end DeclaredPath

/-- An observation reports the same of probes with the same failure classes. -/
lemma reportedClass_eq {requested effective : Nat} {probes probes' : List DeclaredPathProbe}
    (h : probes.map DeclaredPathProbe.failureClass = probes'.map DeclaredPathProbe.failureClass) :
    reportedClass requested effective probes = reportedClass requested effective probes' := by
  have hempty : probes = [] ↔ probes' = [] := by
    rw [← List.map_eq_nil_iff (f := DeclaredPathProbe.failureClass), h, List.map_eq_nil_iff]
  unfold reportedClass aggregateFailureClass
  rw [h, if_congr hempty rfl rfl]

/-- Within the bounds, the outcomes of the paths do not depend on the orders of the directories
exactly if all that may be met first in each has one outcome; then every observation reports the
same. -/
theorem probe_order_iff (paths : List DeclaredPath) (hwithin : ∀ path ∈ paths, path.Within) :
    ((∀ path ∈ paths, path.OrderFree) ↔ ∀ path ∈ paths, path.Agrees) ∧
      ((∀ path ∈ paths, path.Agrees) → ∀ requested effective probes probes',
        List.Forall₂ DeclaredPath.Probed paths probes →
        List.Forall₂ DeclaredPath.Probed paths probes' →
        reportedClass requested effective probes = reportedClass requested effective probes' ∧
          (reportedClass requested effective probes).status =
            (reportedClass requested effective probes').status) := by
  have hiff : (∀ path ∈ paths, path.OrderFree) ↔ ∀ path ∈ paths, path.Agrees :=
    forall₂_congr fun path hpath => DeclaredPath.orderFree_iff (hwithin path hpath)
  refine ⟨hiff, fun hagrees requested effective probes probes' hprobes hprobes' => ?_⟩
  have hclasses : probes.map DeclaredPathProbe.failureClass =
      probes'.map DeclaredPathProbe.failureClass := by
    have hfree := hiff.mpr hagrees
    clear hiff hagrees hwithin
    induction hprobes generalizing probes' with
    | nil =>
        cases hprobes'
        rfl
    | cons hprobe hprobes ih =>
        cases hprobes' with
        | cons hprobe' hprobes' =>
            rw [List.forall_mem_cons] at hfree
            rw [List.map_cons, List.map_cons, ih _ hprobes' hfree.2,
              DeclaredPath.failureClass_eq hfree.1 hprobe hprobe']
  rw [reportedClass_eq hclasses]
  exact ⟨rfl, rfl⟩

/-- A directory with two files. -/
def sampleFiles (first second : Except Nat Unit) : Dir :=
  .mk [⟨none, .regular first⟩, ⟨none, .regular second⟩] none

lemma sampleFiles_within (first second : Except Nat Unit) :
    WithinBounds (sampleFiles first second) := by
  refine ⟨⟨Nat.le_of_ble_eq_true rfl, fun entry hentry child hkind => ?_⟩,
    Nat.le_of_ble_eq_true rfl⟩
  rcases List.mem_pair.mp hentry with rfl | rfl
  · cases hkind
  · cases hkind

/-- Two files that can be read are found in any order. -/
theorem probe_order_readable :
    (DeclaredPath.mk ⟨some true, some true, some true⟩ ⟨some true, some true, some true⟩
      (.ok (sampleFiles (.ok ()) (.ok ())))).OrderFree := by
  refine (probe_order_iff [_] (List.forall_mem_singleton.mpr ?_)).1.mpr
    (List.forall_mem_singleton.mpr ?_) _ List.mem_cons_self
  · rintro _ ⟨⟩
    exact sampleFiles_within _ _
  · rintro _ ⟨⟩ outcome houtcome outcome' houtcome'
    rw [List.eq_of_mem_replicate (n := 2) (a := FailureClass.healthy) houtcome,
      List.eq_of_mem_replicate (n := 2) (a := FailureClass.healthy) houtcome']

/-- One file that can be read and one that cannot: the first one decides. -/
theorem probe_order_mixed : ∃ dir, WithinBounds dir ∧
    ∃ dir₁ dir₂, Reordered dir dir₁ ∧ Reordered dir dir₂ ∧
      (boundedRead dir₁).boundedProbeOutcome ≠ (boundedRead dir₂).boundedProbeOutcome :=
  ⟨sampleFiles (.ok ()) (.error EACCES), sampleFiles_within _ _, _,
    sampleFiles (.error EACCES) (.ok ()), .refl _, .perm (List.Perm.swap _ _ _), by decide⟩

end AgentRuntimeOps.Groupware
