import AgentRuntimeOps.Groupware.Probe

/-!
# The bounded search through a directory

`_bounded_read` looks for a regular file that can be read, in a directory and down to two levels
below it.  It takes at most 64 entries of a directory and 256 in all.

`empty_readable_iff` says when the answer that there is no regular file can be relied on.
-/

namespace AgentRuntimeOps.Groupware

/-! ## Directories -/

/-- What an entry is, with the answer to opening it: for a file, also to reading a byte. -/
inductive Kind (δ : Type) where
  | regular (read : Except Nat Unit)
  | directory (opened : Except Nat δ)
  | other

/-- An entry, with the error of `stat`. -/
structure EntryOf (δ : Type) where
  stat : Option Nat
  kind : Kind δ

/-- A directory: its entries in the order of the system, and the error that listing ends with. -/
inductive Dir where
  | mk (entries : List (EntryOf Dir)) (fault : Option Nat)

/-- An entry of a directory. -/
abbrev Entry : Type := EntryOf Dir

namespace Dir

/-- The entries, in the order of the system. -/
def entries : Dir → List Entry
  | mk entries _ => entries

/-- The error that listing ends with. -/
def fault : Dir → Option Nat
  | mk _ fault => fault

end Dir

/-! ## The search -/

/-- `MAX_DIRECTORY_ENTRIES` -/
def maxDirectoryEntries : Nat := 64

/-- `MAX_PROBE_ENTRIES` -/
def maxProbeEntries : Nat := 256

/-- `MAX_PROBE_DEPTH` -/
def maxProbeDepth : Nat := 2

namespace ProbeRow

/-- `True, False, None, "search_bound_reached"` -/
def searchBoundReached : ProbeRow := ⟨some true, some false, none, .searchBoundReached⟩

/-- `False, False, exc.errno, "scan_failed"` -/
def scanFailed (errno : Nat) : ProbeRow := ⟨some false, some false, some errno, .scanFailed⟩

/-- `True, True, None, "regular_file"` -/
def regularFile : ProbeRow := ⟨some true, some true, none, .regularFile⟩

/-- `True, False, exc.errno, "open_failed"` -/
def openFailed (errno : Nat) : ProbeRow := ⟨some true, some false, some errno, .openFailed⟩

/-- `True, False, None, "no_regular_file_within_bound"` -/
def noRegularFile : ProbeRow := ⟨some true, some false, none, .noRegularFileWithinBound⟩

/-- The result of a child that the search goes on after. -/
def Quiet (row : ProbeRow) : Prop :=
  row.openReadOk ≠ some true ∧
    (row.representative = .noRegularFileWithinBound ∨ row.representative = .searchBoundReached)

instance (row : ProbeRow) : Decidable row.Quiet := inferInstanceAs (Decidable (_ ∧ _))

end ProbeRow

/-- The loop over the iterator; `seen` counts the entries of all directories. -/
def scan (fault : Option Nat) : List Entry → List Entry → Nat → Except ProbeRow (List Entry) × Nat
  | [], entries, seen =>
      match fault with
      | some errno => (.error (.scanFailed errno), seen)
      | none => (.ok entries, seen)
  | entry :: rest, entries, seen =>
      if maxProbeEntries < seen + 1 then (.error .searchBoundReached, seen + 1)
      else if maxDirectoryEntries ≤ (entries ++ [entry]).length then
        (.ok (entries ++ [entry]), seen + 1)
      else scan fault rest (entries ++ [entry]) (seen + 1)

/-- The loop that returns at the first file. -/
def readFirst : List Entry → Option ProbeRow
  | [] => none
  | entry :: rest =>
      match entry.stat, entry.kind with
      | some errno, _ => some (.openFailed errno)
      | none, .regular (.ok ()) => some .regularFile
      | none, .regular (.error errno) => some (.openFailed errno)
      | none, _ => readFirst rest

/-- The loop over the directories. -/
def descend (walk : Dir → Nat → ProbeRow × Nat) : List Entry → Nat → Option ProbeRow × Nat
  | [], seen => (none, seen)
  | entry :: rest, seen =>
      match entry.kind with
      | .directory (.ok child) =>
          let result := walk child seen
          if result.1.Quiet then descend walk rest result.2 else (some result.1, result.2)
      | _ => descend walk rest seen

/-- `walk`, with the number of levels below. -/
def walk (levels : Nat) (dir : Dir) (seen : Nat) : ProbeRow × Nat :=
  match scan dir.fault dir.entries [] seen with
  | (.error row, seen) => (row, seen)
  | (.ok entries, seen) =>
      match readFirst entries with
      | some row => (row, seen)
      | none =>
          match levels with
          | 0 => (.noRegularFile, seen)
          | levels + 1 =>
              match descend (walk levels) entries seen with
              | (some row, seen) => (row, seen)
              | (none, seen) => (.noRegularFile, seen)

/-- `_bounded_read` -/
def boundedRead (dir : Dir) : ProbeRow := (walk maxProbeDepth dir 0).1

/-! ## What the answer should mean -/

/-- Nothing is refused or fails to be listed, no directory is longer than its bound and no entry is
a regular file, down to a number of levels. -/
def Empty (levels : Nat) (dir : Dir) : Prop :=
  dir.fault = none ∧ dir.entries.length ≤ maxDirectoryEntries ∧
    ∀ entry ∈ dir.entries, (∀ read, entry.kind ≠ .regular read) ∧
      match levels with
      | 0 => True
      | levels + 1 => ∀ opened, entry.kind = .directory opened →
          ∃ child, opened = .ok child ∧ Empty levels child

/-- The number of entries, down to a number of levels. -/
def size (levels : Nat) (dir : Dir) : Nat :=
  dir.entries.length +
    match levels with
    | 0 => 0
    | levels + 1 => (dir.entries.map fun entry =>
        match entry.kind with
        | .directory (.ok child) => size levels child
        | _ => 0).sum

/-- An answer that the directory is readable and empty is right. -/
def EmptyReadableIsHonest (dir : Dir) : Prop :=
  (boundedRead dir).representative = .noRegularFileWithinBound ∨
      (boundedRead dir).boundedProbeOutcome = .emptyReadable →
    Empty maxProbeDepth dir ∧ size maxProbeDepth dir ≤ maxProbeEntries

/-! ## What the search comes to -/

/-- The entries of a directory that are looked at. -/
def Dir.listed (dir : Dir) : List Entry := dir.entries.take maxDirectoryEntries

/-- A directory that the search comes to, the entries that it has seen before and the levels below.
-/
structure Visit where
  dir : Dir
  seen : Nat
  levels : Nat

namespace Visit

/-- The directory can be listed up to its bound. -/
def Affordable (visit : Visit) : Prop :=
  visit.dir.listed = [] ∨ visit.seen + visit.dir.listed.length ≤ maxProbeEntries

instance (visit : Visit) : Decidable visit.Affordable :=
  inferInstanceAs (Decidable (_ = [] ∨ _))

/-- What is seen with the directory. -/
def seenAfter (visit : Visit) : Nat :=
  if visit.Affordable then visit.seen + visit.dir.listed.length
  else max visit.seen maxProbeEntries + 1

end Visit

/-- An entry that ends the search. -/
def EntryOf.Reports (entry : Entry) : Prop :=
  entry.stat.isSome = true ∨ ∃ read, entry.kind = .regular read

/-- A directory that cannot be opened. -/
def EntryOf.Refused (entry : Entry) : Prop := ∃ errno, entry.kind = .directory (.error errno)

namespace Visit

/-- The directory ends the search: it cannot be listed, or has a file or an entry without status
among those that are looked at. -/
def Reports (visit : Visit) : Prop :=
  visit.Affordable ∧
    (visit.dir.fault.isSome = true ∧ visit.dir.entries.length < maxDirectoryEntries ∨
      ∃ entry ∈ visit.dir.listed, entry.Reports)

/-- The search goes on as if there were nothing more: the bound of all entries is reached, or the
one of the directory before its end, or a directory in it is refused. -/
def Hides (visit : Visit) : Prop :=
  ¬visit.Affordable ∨ maxDirectoryEntries < visit.dir.entries.length ∨
    visit.dir.entries.length = maxDirectoryEntries ∧ visit.dir.fault.isSome = true ∨
      visit.levels ≠ 0 ∧ ∃ entry ∈ visit.dir.listed, entry.Refused

end Visit

/-- What the loop over the directories comes to. -/
def visitEach (visits : Dir → Nat → List Visit × Nat) : List Entry → Nat → List Visit × Nat
  | [], seen => ([], seen)
  | entry :: rest, seen =>
      match entry.kind with
      | .directory (.ok child) =>
          let first := visits child seen
          let more := visitEach visits rest first.2
          (first.1 ++ more.1, more.2)
      | _ => visitEach visits rest seen

/-- The directories that a search comes to that nothing ends, in order, and what it has seen then.
-/
def visits (levels : Nat) (dir : Dir) (seen : Nat) : List Visit × Nat :=
  let visit : Visit := ⟨dir, seen, levels⟩
  match levels with
  | 0 => ([visit], visit.seenAfter)
  | levels + 1 =>
      if visit.Affordable then
        let below := visitEach (visits levels) dir.listed visit.seenAfter
        (visit :: below.1, below.2)
      else ([visit], visit.seenAfter)

/-! ## One directory -/

variable {levels seen : Nat} {dir : Dir} {entries : List Entry}

/-- The loop over the iterator takes as many entries as there is room for. -/
lemma scan_eq (fault : Option Nat) (rest taken : List Entry) (seen : Nat)
    (htaken : taken.length < maxDirectoryEntries) :
    scan fault rest taken seen =
      let more := rest.take (maxDirectoryEntries - taken.length)
      if more = [] ∨ seen + more.length ≤ maxProbeEntries then
        match (if rest.length < maxDirectoryEntries - taken.length then fault else none) with
        | some errno => (.error (.scanFailed errno), seen + more.length)
        | none => (.ok (taken ++ more), seen + more.length)
      else (.error .searchBoundReached, max seen maxProbeEntries + 1) := by
  induction rest generalizing taken seen with
  | nil =>
      have hroom : 0 < maxDirectoryEntries - taken.length := by omega
      simp only [scan, List.take_nil, List.length_nil, true_or, if_true, if_pos hroom,
        List.append_nil, Nat.add_zero]
  | cons entry rest ih =>
      obtain ⟨room, hroom⟩ : ∃ room, maxDirectoryEntries - taken.length = room + 1 :=
        ⟨maxDirectoryEntries - taken.length - 1, by omega⟩
      have hmore : (entry :: rest).take (room + 1) = entry :: rest.take room := rfl
      rw [scan, hroom, hmore]
      dsimp only
      by_cases hbound : maxProbeEntries < seen + 1
      · have hnot : ¬(entry :: rest.take room = [] ∨
            seen + (entry :: rest.take room).length ≤ maxProbeEntries) := by
          rw [List.length_cons]
          rintro (h | h)
          · cases h
          · omega
        rw [if_pos hbound, if_neg hnot]
        congr 1
        omega
      · rw [if_neg hbound, List.length_append, List.length_singleton]
        by_cases hfull : maxDirectoryEntries ≤ taken.length + 1
        · have hlast : room = 0 := by omega
          have hthere : ¬(entry :: rest).length < 0 + 1 := by simp
          rw [if_pos hfull, hlast, if_neg hthere, List.take_zero, List.length_singleton,
            if_pos (.inr (by omega))]
        · have hnext : maxDirectoryEntries - (taken ++ [entry]).length = room := by
            rw [List.length_append, List.length_singleton]
            omega
          have htaken' : (taken ++ [entry]).length < maxDirectoryEntries := by
            rw [List.length_append, List.length_singleton]
            omega
          rw [if_neg hfull, ih _ _ htaken', hnext]
          dsimp only
          have hbudget : (rest.take room = [] ∨ seen + 1 + (rest.take room).length ≤
              maxProbeEntries) ↔ entry :: rest.take room = [] ∨
                seen + (entry :: rest.take room).length ≤ maxProbeEntries := by
            rw [List.length_cons]
            constructor
            · rintro (h | h)
              · rw [h, List.length_nil]
                exact .inr (by omega)
              · exact .inr (by omega)
            · rintro (h | h)
              · cases h
              · exact .inr (by omega)
          have hlength : rest.length < room ↔ (entry :: rest).length < room + 1 := by
            rw [List.length_cons]
            omega
          have hseen : seen + 1 + (rest.take room).length =
              seen + (entry :: rest.take room).length := by
            rw [List.length_cons]
            omega
          have hmax : max (seen + 1) maxProbeEntries + 1 = max seen maxProbeEntries + 1 := by omega
          rw [if_congr hbudget rfl rfl, if_congr hlength rfl rfl, hseen, hmax, List.append_assoc]
          rfl

/-- The first loop finds nothing where no entry reports. -/
lemma readFirst_eq_none_iff : readFirst entries = none ↔ ∀ entry ∈ entries, ¬entry.Reports := by
  induction entries with
  | nil => simp [readFirst]
  | cons entry entries ih =>
      rw [List.forall_mem_cons, ← ih]
      obtain ⟨stat, kind⟩ := entry
      cases stat with
      | some errno => simp [readFirst, EntryOf.Reports]
      | none =>
          cases kind with
          | regular read =>
              cases read with
              | ok _ => simp [readFirst, EntryOf.Reports]
              | error errno => simp [readFirst, EntryOf.Reports]
          | directory opened => simp [readFirst, EntryOf.Reports]
          | other => simp [readFirst, EntryOf.Reports]

/-- What the first loop returns is passed on. -/
lemma not_quiet_of_readFirst {row : ProbeRow} (h : readFirst entries = some row) : ¬row.Quiet := by
  induction entries with
  | nil => cases h
  | cons entry entries ih =>
      rw [readFirst] at h
      split at h
      · cases h
        rintro ⟨-, hrep | hrep⟩ <;> cases hrep
      · cases h
        rintro ⟨hopen, -⟩
        exact hopen rfl
      · cases h
        rintro ⟨-, hrep | hrep⟩ <;> cases hrep
      · exact ih h

/-- What the search does with a directory before it goes down. -/
lemma walk_eq (levels : Nat) (dir : Dir) (seen : Nat) :
    walk levels dir seen =
      let visit : Visit := ⟨dir, seen, levels⟩
      if visit.Affordable then
        match (if dir.entries.length < maxDirectoryEntries then dir.fault else none) with
        | some errno => (.scanFailed errno, visit.seenAfter)
        | none =>
            match readFirst dir.listed with
            | some row => (row, visit.seenAfter)
            | none =>
                match levels with
                | 0 => (.noRegularFile, visit.seenAfter)
                | levels + 1 =>
                    match descend (walk levels) dir.listed visit.seenAfter with
                    | (some row, seen) => (row, seen)
                    | (none, seen) => (.noRegularFile, seen)
      else (.searchBoundReached, visit.seenAfter) := by
  have hscan : scan dir.fault dir.entries [] seen =
      if dir.listed = [] ∨ seen + dir.listed.length ≤ maxProbeEntries then
        match (if dir.entries.length < maxDirectoryEntries then dir.fault else none) with
        | some errno => (.error (.scanFailed errno), seen + dir.listed.length)
        | none => (.ok dir.listed, seen + dir.listed.length)
      else (.error .searchBoundReached, max seen maxProbeEntries + 1) :=
    scan_eq dir.fault dir.entries [] seen (by decide)
  dsimp only
  rw [walk, hscan]
  by_cases hbudget : dir.listed = [] ∨ seen + dir.listed.length ≤ maxProbeEntries
  · have haffordable : (⟨dir, seen, levels⟩ : Visit).Affordable := hbudget
    rw [if_pos hbudget, if_pos haffordable, Visit.seenAfter, if_pos haffordable]
    cases if dir.entries.length < maxDirectoryEntries then dir.fault else none with
    | none => rfl
    | some errno => rfl
  · have haffordable : ¬(⟨dir, seen, levels⟩ : Visit).Affordable := hbudget
    rw [if_neg hbudget, if_neg haffordable, Visit.seenAfter, if_neg haffordable]

/-! ## What the search comes to -/

@[simp] lemma quiet_searchBoundReached : ProbeRow.searchBoundReached.Quiet := by decide

@[simp] lemma quiet_noRegularFile : ProbeRow.noRegularFile.Quiet := by decide

/-- A directory that ends the search. -/
lemma not_quiet_of_reports (h : (⟨dir, seen, levels⟩ : Visit).Reports) :
    ¬(walk levels dir seen).1.Quiet := by
  obtain ⟨haffordable, h⟩ := h
  rw [walk_eq]
  dsimp only
  rw [if_pos haffordable]
  split
  · rintro ⟨-, hrep | hrep⟩ <;> cases hrep
  case h_2 hfault =>
    rcases h with ⟨hsome, hshort⟩ | ⟨entry, hmem, hreports⟩
    · rw [if_pos hshort] at hfault
      rw [hfault] at hsome
      cases hsome
    · obtain ⟨row, hrow⟩ := Option.ne_none_iff_exists'.mp fun hnone =>
        readFirst_eq_none_iff.mp hnone entry hmem hreports
      rw [hrow]
      exact not_quiet_of_readFirst hrow

/-- A directory that does not end the search before it goes down. -/
lemma quiet_of_not_reports (haffordable : (⟨dir, seen, levels⟩ : Visit).Affordable)
    (h : ¬(⟨dir, seen, levels⟩ : Visit).Reports) :
    (if dir.entries.length < maxDirectoryEntries then dir.fault else none) = none ∧
      readFirst dir.listed = none := by
  constructor
  · split_ifs with hshort
    · by_contra hsome
      exact h ⟨haffordable, .inl ⟨Option.isSome_iff_ne_none.mpr hsome, hshort⟩⟩
    · rfl
  · exact readFirst_eq_none_iff.mpr fun entry hmem hreports =>
      h ⟨haffordable, .inr ⟨entry, hmem, hreports⟩⟩

lemma walk_zero (haffordable : (⟨dir, seen, 0⟩ : Visit).Affordable)
    (h : ¬(⟨dir, seen, 0⟩ : Visit).Reports) :
    walk 0 dir seen = (.noRegularFile, (⟨dir, seen, 0⟩ : Visit).seenAfter) := by
  obtain ⟨hfault, hread⟩ := quiet_of_not_reports haffordable h
  rw [walk_eq]
  dsimp only
  rw [if_pos haffordable, hfault, hread]

lemma walk_succ (haffordable : (⟨dir, seen, levels + 1⟩ : Visit).Affordable)
    (h : ¬(⟨dir, seen, levels + 1⟩ : Visit).Reports) :
    walk (levels + 1) dir seen =
      match descend (walk levels) dir.listed (⟨dir, seen, levels + 1⟩ : Visit).seenAfter with
      | (some row, seen) => (row, seen)
      | (none, seen) => (.noRegularFile, seen) := by
  obtain ⟨hfault, hread⟩ := quiet_of_not_reports haffordable h
  rw [walk_eq]
  dsimp only
  rw [if_pos haffordable, hfault, hread]

lemma walk_of_not_affordable (h : ¬(⟨dir, seen, levels⟩ : Visit).Affordable) :
    walk levels dir seen = (.searchBoundReached, (⟨dir, seen, levels⟩ : Visit).seenAfter) := by
  rw [walk_eq]
  exact if_neg h

/-- The loop over the directories goes to its end exactly if nothing that it comes to reports. -/
lemma descend_spec {walk : Dir → Nat → ProbeRow × Nat} {visits : Dir → Nat → List Visit × Nat}
    (hwalk : ∀ dir seen, ((walk dir seen).1.Quiet ↔ ∀ visit ∈ (visits dir seen).1, ¬visit.Reports) ∧
      ((walk dir seen).1.Quiet → (walk dir seen).2 = (visits dir seen).2))
    (entries : List Entry) (seen : Nat) :
    (∀ row, (descend walk entries seen).1 = some row → ¬row.Quiet) ∧
      ((descend walk entries seen).1 = none ↔
        ∀ visit ∈ (visitEach visits entries seen).1, ¬visit.Reports) ∧
      ((descend walk entries seen).1 = none →
        (descend walk entries seen).2 = (visitEach visits entries seen).2) := by
  induction entries generalizing seen with
  | nil => exact ⟨nofun, ⟨fun _ => nofun, fun _ => rfl⟩, fun _ => rfl⟩
  | cons entry entries ih =>
      obtain ⟨stat, kind⟩ := entry
      rcases kind with read | (errno | child) | _
      · exact ih seen
      · exact ih seen
      · obtain ⟨hquiet, hseen⟩ := hwalk child seen
        by_cases hq : (walk child seen).1.Quiet
        · have hdescend : descend walk (⟨stat, .directory (.ok child)⟩ :: entries) seen =
              descend walk entries (visits child seen).2 := by
            rw [← hseen hq]
            exact if_pos hq
          obtain ⟨hrow, hnone, hafter⟩ := ih (visits child seen).2
          rw [hdescend]
          refine ⟨hrow, ?_, hafter⟩
          rw [hnone]
          exact ⟨fun h => List.forall_mem_append.mpr ⟨hquiet.mp hq, h⟩,
            fun h => (List.forall_mem_append.mp h).2⟩
        · have hdescend : descend walk (⟨stat, .directory (.ok child)⟩ :: entries) seen =
              (some (walk child seen).1, (walk child seen).2) := if_neg hq
          rw [hdescend]
          refine ⟨?_, ?_, nofun⟩
          · rintro row ⟨⟩
            exact hq
          · refine iff_of_false nofun fun h => hq (hquiet.mpr ?_)
            exact (List.forall_mem_append.mp h).1
      · exact ih seen

/-- A search is quiet exactly if nothing that it comes to reports. -/
lemma walk_spec (levels : Nat) (dir : Dir) (seen : Nat) :
    ((walk levels dir seen).1.Quiet ↔ ∀ visit ∈ (visits levels dir seen).1, ¬visit.Reports) ∧
      ((walk levels dir seen).1.Quiet → (walk levels dir seen).2 = (visits levels dir seen).2) := by
  induction levels generalizing dir seen with
  | zero =>
      have hvisits : visits 0 dir seen =
          ([⟨dir, seen, 0⟩], (⟨dir, seen, 0⟩ : Visit).seenAfter) := rfl
      rw [hvisits, List.forall_mem_singleton]
      by_cases haffordable : (⟨dir, seen, 0⟩ : Visit).Affordable
      · by_cases hreports : (⟨dir, seen, 0⟩ : Visit).Reports
        · have hloud := not_quiet_of_reports hreports
          exact ⟨iff_of_false hloud (not_not.mpr hreports), fun h => absurd h hloud⟩
        · rw [walk_zero haffordable hreports]
          exact ⟨iff_of_true quiet_noRegularFile hreports, fun _ => rfl⟩
      · rw [walk_of_not_affordable haffordable]
        exact ⟨iff_of_true quiet_searchBoundReached fun h => haffordable h.1, fun _ => rfl⟩
  | succ levels ih =>
      by_cases haffordable : (⟨dir, seen, levels + 1⟩ : Visit).Affordable
      · obtain ⟨hrow, hnone, hafter⟩ :=
          descend_spec ih dir.listed (⟨dir, seen, levels + 1⟩ : Visit).seenAfter
        have hvisits : visits (levels + 1) dir seen =
            (⟨dir, seen, levels + 1⟩ :: (visitEach (visits levels) dir.listed
              (⟨dir, seen, levels + 1⟩ : Visit).seenAfter).1, (visitEach (visits levels) dir.listed
              (⟨dir, seen, levels + 1⟩ : Visit).seenAfter).2) := if_pos haffordable
        rw [hvisits, List.forall_mem_cons]
        by_cases hreports : (⟨dir, seen, levels + 1⟩ : Visit).Reports
        · have hloud := not_quiet_of_reports hreports
          exact ⟨iff_of_false hloud fun h => h.1 hreports, fun h => absurd h hloud⟩
        · rw [walk_succ haffordable hreports, ← hnone]
          cases hdescend : descend (walk levels) dir.listed
              (⟨dir, seen, levels + 1⟩ : Visit).seenAfter with
          | mk found after =>
              rw [hdescend] at hrow hafter
              cases found with
              | some row =>
                  have hloud := hrow row rfl
                  exact ⟨iff_of_false hloud fun h => Option.some_ne_none row h.2,
                    fun h => absurd h hloud⟩
              | none =>
                  exact ⟨iff_of_true quiet_noRegularFile ⟨hreports, rfl⟩, fun _ => hafter rfl⟩
      · have hvisits : visits (levels + 1) dir seen =
            ([⟨dir, seen, levels + 1⟩], (⟨dir, seen, levels + 1⟩ : Visit).seenAfter) :=
          if_neg haffordable
        rw [hvisits, walk_of_not_affordable haffordable, List.forall_mem_singleton]
        exact ⟨iff_of_true quiet_searchBoundReached fun h => haffordable h.1, fun _ => rfl⟩

/-! ## Whether it is empty -/

/-- The directory that a search starts from is listed up to its bound. -/
lemma affordable_root (dir : Dir) (levels : Nat) : (⟨dir, 0, levels⟩ : Visit).Affordable := by
  refine .inr ?_
  have hlength : dir.listed.length ≤ maxDirectoryEntries := List.length_take_le _ _
  exact (Nat.zero_add _).trans_le (hlength.trans (by decide))

/-- The rows that a search returns. -/
inductive Ends : ProbeRow → Prop where
  | regularFile : Ends .regularFile
  | openFailed (errno : Nat) : Ends (.openFailed errno)
  | scanFailed (errno : Nat) : Ends (.scanFailed errno)
  | noRegularFile : Ends .noRegularFile
  | searchBoundReached : Ends .searchBoundReached

lemma ends_readFirst {row : ProbeRow} (h : readFirst entries = some row) : Ends row := by
  induction entries with
  | nil => cases h
  | cons entry entries ih =>
      rw [readFirst] at h
      split at h
      · cases h
        exact .openFailed _
      · cases h
        exact .regularFile
      · cases h
        exact .openFailed _
      · exact ih h

lemma ends_descend {walk : Dir → Nat → ProbeRow × Nat} (hwalk : ∀ dir seen, Ends (walk dir seen).1)
    {row : ProbeRow} (h : (descend walk entries seen).1 = some row) : Ends row ∧ ¬row.Quiet := by
  induction entries generalizing seen with
  | nil => cases h
  | cons entry entries ih =>
      rw [descend] at h
      split at h
      · dsimp only at h
        split_ifs at h with hquiet
        · exact ih h
        · cases h
          exact ⟨hwalk _ _, hquiet⟩
      · exact ih h

lemma ends_walk (levels : Nat) (dir : Dir) (seen : Nat) : Ends (walk levels dir seen).1 := by
  induction levels generalizing dir seen with
  | zero =>
      by_cases haffordable : (⟨dir, seen, 0⟩ : Visit).Affordable
      · rw [walk_eq]
        dsimp only
        rw [if_pos haffordable]
        split
        · exact .scanFailed _
        · split
          case h_1 row hrow => exact ends_readFirst hrow
          case h_2 => exact .noRegularFile
      · rw [walk_of_not_affordable haffordable]
        exact .searchBoundReached
  | succ levels ih =>
      by_cases haffordable : (⟨dir, seen, levels + 1⟩ : Visit).Affordable
      · rw [walk_eq]
        dsimp only
        rw [if_pos haffordable]
        split
        · exact .scanFailed _
        · split
          case h_1 row hrow => exact ends_readFirst hrow
          case h_2 =>
            split
            case h_1 hdescend => exact (ends_descend ih (congrArg Prod.fst hdescend)).1
            case h_2 => exact .noRegularFile
      · rw [walk_of_not_affordable haffordable]
        exact .searchBoundReached

/-- A search that can list its first directory does not say that the bound of all is reached. -/
lemma walk_ne_searchBoundReached (h : (⟨dir, seen, levels⟩ : Visit).Affordable) :
    (walk levels dir seen).1 ≠ .searchBoundReached := by
  rw [walk_eq]
  dsimp only
  rw [if_pos h]
  split
  · exact fun h => nomatch congrArg ProbeRow.representative h
  · split
    case h_1 row hrow =>
      rintro rfl
      exact not_quiet_of_readFirst hrow quiet_searchBoundReached
    case h_2 =>
      cases levels with
      | zero => exact fun h => nomatch congrArg ProbeRow.representative h
      | succ levels =>
          dsimp only
          split
          case h_1 row _ hdescend =>
            rintro rfl
            exact (ends_descend (ends_walk levels) (congrArg Prod.fst hdescend)).2
              quiet_searchBoundReached
          case h_2 => exact fun h => nomatch congrArg ProbeRow.representative h

/-- The answer is `no_regular_file_within_bound` exactly if nothing that the search comes to
reports. -/
lemma representative_eq_noRegularFile_iff (dir : Dir) :
    (boundedRead dir).representative = .noRegularFileWithinBound ↔
      ∀ visit ∈ (visits maxProbeDepth dir 0).1, ¬visit.Reports := by
  rw [← (walk_spec maxProbeDepth dir 0).1]
  have hbound := walk_ne_searchBoundReached (affordable_root dir maxProbeDepth)
  have hends := ends_walk maxProbeDepth dir 0
  unfold boundedRead
  generalize (walk maxProbeDepth dir 0).1 = row at hbound hends ⊢
  cases hends with
  | regularFile => decide
  | openFailed errno => exact iff_of_false nofun fun h => h.2.elim nofun nofun
  | scanFailed errno => exact iff_of_false nofun fun h => h.2.elim nofun nofun
  | noRegularFile => decide
  | searchBoundReached => exact absurd rfl hbound

/-- Only this answer is reported as empty and readable. -/
lemma boundedProbeOutcome_eq_emptyReadable_iff (dir : Dir) :
    (boundedRead dir).boundedProbeOutcome = .emptyReadable ↔
      (boundedRead dir).representative = .noRegularFileWithinBound := by
  have hends := ends_walk maxProbeDepth dir 0
  unfold boundedRead
  generalize (walk maxProbeDepth dir 0).1 = row at hends ⊢
  cases hends with
  | regularFile => decide
  | openFailed errno =>
      refine iff_of_false (fun h => ?_) nofun
      simp only [ProbeRow.boundedProbeOutcome, ProbeRow.openFailed] at h
      split_ifs at h with hsome hdenied hempty
      cases hempty.2.2.1
  | scanFailed errno =>
      refine iff_of_false (fun h => ?_) nofun
      simp only [ProbeRow.boundedProbeOutcome, ProbeRow.scanFailed] at h
      split_ifs at h with hsome hdenied hempty
      cases hempty.2.2.1
  | noRegularFile => decide
  | searchBoundReached => decide

/-! ## What the search comes to, in a directory that is empty -/

/-- What a directory itself must be like where nothing of it reports or is hidden. -/
lemma quiet_dir (hreports : ¬(⟨dir, seen, levels⟩ : Visit).Reports)
    (hhides : ¬(⟨dir, seen, levels⟩ : Visit).Hides) :
    dir.fault = none ∧ dir.entries.length ≤ maxDirectoryEntries ∧ dir.listed = dir.entries ∧
      ∀ entry ∈ dir.entries, ¬entry.Reports := by
  have haffordable : (⟨dir, seen, levels⟩ : Visit).Affordable := by
    by_contra hnot
    exact hhides (.inl hnot)
  have hlength : dir.entries.length ≤ maxDirectoryEntries := by
    by_contra hnot
    exact hhides (.inr (.inl (not_le.mp hnot)))
  have hlisted : dir.listed = dir.entries := List.take_of_length_le hlength
  refine ⟨?_, hlength, hlisted, fun entry hmem hreport => ?_⟩
  · by_contra hsome
    rcases hlength.lt_or_eq with hshort | hfull
    · exact hreports ⟨haffordable, .inl ⟨Option.isSome_iff_ne_none.mpr hsome, hshort⟩⟩
    · exact hhides (.inr (.inr (.inl ⟨hfull, Option.isSome_iff_ne_none.mpr hsome⟩)))
  · exact hreports ⟨haffordable, .inr ⟨entry, hlisted ▸ hmem, hreport⟩⟩

lemma seenAfter_le (h : (⟨dir, seen, levels⟩ : Visit).Affordable) (hseen : seen ≤ maxProbeEntries) :
    seen + dir.listed.length ≤ maxProbeEntries := by
  rcases h with hnone | hbudget
  · rwa [show dir.listed = [] from hnone]
  · exact hbudget

/-- The directories in a list of entries are empty where nothing in them reports or is hidden. -/
lemma empty_of_visitEach (ih : ∀ dir seen,
      (∀ visit ∈ (visits levels dir seen).1, ¬visit.Reports) →
      (∀ visit ∈ (visits levels dir seen).1, ¬visit.Hides) → seen ≤ maxProbeEntries →
      Empty levels dir ∧ (visits levels dir seen).2 = seen + size levels dir ∧
        (visits levels dir seen).2 ≤ maxProbeEntries)
    (hreports : ∀ visit ∈ (visitEach (visits levels) entries seen).1, ¬visit.Reports)
    (hhides : ∀ visit ∈ (visitEach (visits levels) entries seen).1, ¬visit.Hides)
    (hseen : seen ≤ maxProbeEntries) :
    (∀ entry ∈ entries, ∀ child, entry.kind = .directory (.ok child) → Empty levels child) ∧
      ((visitEach (visits levels) entries seen).2 = seen + (entries.map fun entry =>
        match entry.kind with
        | .directory (.ok child) => size levels child
        | _ => 0).sum) ∧ (visitEach (visits levels) entries seen).2 ≤ maxProbeEntries := by
  induction entries generalizing seen with
  | nil => exact ⟨nofun, rfl, hseen⟩
  | cons entry entries ih' =>
      obtain ⟨stat, kind⟩ := entry
      rw [List.map_cons, List.sum_cons, List.forall_mem_cons]
      rcases kind with read | (errno | child) | _
      · obtain ⟨hrest, hsum, hbound⟩ := ih' hreports hhides hseen
        exact ⟨⟨nofun, hrest⟩, by rw [Nat.zero_add]; exact hsum, hbound⟩
      · obtain ⟨hrest, hsum, hbound⟩ := ih' hreports hhides hseen
        exact ⟨⟨nofun, hrest⟩, by rw [Nat.zero_add]; exact hsum, hbound⟩
      · obtain ⟨hchild, hafter, hfirst⟩ := ih child seen (List.forall_mem_append.mp hreports).1
          (List.forall_mem_append.mp hhides).1 hseen
        obtain ⟨hrest, hsum, hbound⟩ := ih' (List.forall_mem_append.mp hreports).2
          (List.forall_mem_append.mp hhides).2 hfirst
        refine ⟨⟨?_, hrest⟩, ?_, hbound⟩
        · rintro _ ⟨⟩
          exact hchild
        · refine hsum.trans ?_
          rw [hafter, Nat.add_assoc]
      · obtain ⟨hrest, hsum, hbound⟩ := ih' hreports hhides hseen
        exact ⟨⟨nofun, hrest⟩, by rw [Nat.zero_add]; exact hsum, hbound⟩

/-- A search that hides nothing of what is quiet has seen all of it. -/
lemma empty_of_visits (levels : Nat) (dir : Dir) (seen : Nat)
    (hreports : ∀ visit ∈ (visits levels dir seen).1, ¬visit.Reports)
    (hhides : ∀ visit ∈ (visits levels dir seen).1, ¬visit.Hides)
    (hseen : seen ≤ maxProbeEntries) :
    Empty levels dir ∧ (visits levels dir seen).2 = seen + size levels dir ∧
      (visits levels dir seen).2 ≤ maxProbeEntries := by
  induction levels generalizing dir seen with
  | zero =>
      have hmem : (⟨dir, seen, 0⟩ : Visit) ∈ (visits 0 dir seen).1 := List.mem_cons_self
      obtain ⟨hfault, hlength, hlisted, hentries⟩ :=
        quiet_dir (hreports _ hmem) (hhides _ hmem)
      have haffordable : (⟨dir, seen, 0⟩ : Visit).Affordable :=
        not_not.mp fun hnot => hhides _ hmem (.inl hnot)
      have hafter : (visits 0 dir seen).2 = seen + dir.entries.length := by
        rw [show (visits 0 dir seen).2 = (⟨dir, seen, 0⟩ : Visit).seenAfter from rfl,
          Visit.seenAfter, if_pos haffordable, hlisted]
      refine ⟨⟨hfault, hlength, fun entry hentry => ⟨fun read hread => ?_, trivial⟩⟩, ?_, ?_⟩
      · exact hentries entry hentry (.inr ⟨read, hread⟩)
      · rw [hafter]
        rfl
      · rw [hafter, ← hlisted]
        exact seenAfter_le haffordable hseen
  | succ levels ih =>
      have hmem : (⟨dir, seen, levels + 1⟩ : Visit) ∈ (visits (levels + 1) dir seen).1 := by
        rw [visits]
        split_ifs <;> exact List.mem_cons_self
      obtain ⟨hfault, hlength, hlisted, hentries⟩ :=
        quiet_dir (hreports _ hmem) (hhides _ hmem)
      have haffordable : (⟨dir, seen, levels + 1⟩ : Visit).Affordable :=
        not_not.mp fun hnot => hhides _ hmem (.inl hnot)
      have hafter : (⟨dir, seen, levels + 1⟩ : Visit).seenAfter = seen + dir.entries.length := by
        rw [Visit.seenAfter, if_pos haffordable, hlisted]
      have hvisits : visits (levels + 1) dir seen =
          (⟨dir, seen, levels + 1⟩ ::
            (visitEach (visits levels) dir.entries (seen + dir.entries.length)).1,
          (visitEach (visits levels) dir.entries (seen + dir.entries.length)).2) := by
        rw [visits, if_pos haffordable, hafter, hlisted]
      rw [hvisits] at hreports hhides
      have hbudget : seen + dir.entries.length ≤ maxProbeEntries := by
        rw [← hlisted]
        exact seenAfter_le haffordable hseen
      obtain ⟨heach, hsum, hbound⟩ := empty_of_visitEach ih (List.forall_mem_cons.mp hreports).2
        (List.forall_mem_cons.mp hhides).2 hbudget
      refine ⟨⟨hfault, hlength, fun entry hentry => ⟨fun read hread => ?_, ?_⟩⟩, ?_, ?_⟩
      · exact hentries entry hentry (.inr ⟨read, hread⟩)
      · rintro (errno | child) hopened
        · refine absurd (.inr (.inr (.inr ⟨Nat.succ_ne_zero _, entry, ?_, errno, hopened⟩)))
            (hhides _ List.mem_cons_self)
          exact hlisted.symm ▸ hentry
        · exact ⟨child, rfl, heach entry hentry child hopened⟩
      · rw [hvisits]
        refine hsum.trans ?_
        rw [size, Nat.add_assoc]
      · rw [hvisits]
        exact hbound

/-- A search through the directories in a list of entries hides nothing where they are empty. -/
lemma visitEach_of_empty (ih : ∀ dir seen, Empty levels dir →
      seen + size levels dir ≤ maxProbeEntries →
      (∀ visit ∈ (visits levels dir seen).1, ¬visit.Hides) ∧
        (visits levels dir seen).2 = seen + size levels dir)
    (hempty : ∀ entry ∈ entries, ∀ child, entry.kind = .directory (.ok child) →
      Empty levels child)
    (hsize : seen + (entries.map fun entry =>
        match entry.kind with
        | .directory (.ok child) => size levels child
        | _ => 0).sum ≤ maxProbeEntries) :
    (∀ visit ∈ (visitEach (visits levels) entries seen).1, ¬visit.Hides) ∧
      (visitEach (visits levels) entries seen).2 = seen + (entries.map fun entry =>
        match entry.kind with
        | .directory (.ok child) => size levels child
        | _ => 0).sum := by
  induction entries generalizing seen with
  | nil => exact ⟨nofun, rfl⟩
  | cons entry entries ih' =>
      obtain ⟨stat, kind⟩ := entry
      rw [List.map_cons, List.sum_cons] at hsize ⊢
      rw [List.forall_mem_cons] at hempty
      rcases kind with read | (errno | child) | _
      · rw [Nat.zero_add] at hsize ⊢
        exact ih' hempty.2 hsize
      · rw [Nat.zero_add] at hsize ⊢
        exact ih' hempty.2 hsize
      · rw [← Nat.add_assoc] at hsize ⊢
        obtain ⟨hchild, hafter⟩ := ih child seen (hempty.1 child rfl)
          ((Nat.le_add_right _ _).trans hsize)
        rw [← hafter] at hsize ⊢
        obtain ⟨hrest, hsum⟩ := ih' hempty.2 hsize
        exact ⟨List.forall_mem_append.mpr ⟨hchild, hrest⟩, hsum⟩
      · rw [Nat.zero_add] at hsize ⊢
        exact ih' hempty.2 hsize

/-- An empty directory within the bounds hides nothing itself. -/
lemma not_hides_of_empty (hempty : Empty levels dir)
    (hsize : seen + dir.entries.length ≤ maxProbeEntries) :
    ¬(⟨dir, seen, levels⟩ : Visit).Hides ∧
      (⟨dir, seen, levels⟩ : Visit).seenAfter = seen + dir.entries.length ∧
      dir.listed = dir.entries := by
  rw [Empty.eq_def] at hempty
  obtain ⟨hfault, hlength, hentries⟩ := hempty
  have hlisted : dir.listed = dir.entries := List.take_of_length_le hlength
  have haffordable : (⟨dir, seen, levels⟩ : Visit).Affordable := .inr (by rwa [hlisted])
  refine ⟨?_, by rw [Visit.seenAfter, if_pos haffordable, hlisted], hlisted⟩
  rintro (hnot | hlong | ⟨-, hsome⟩ | ⟨hlevels, entry, hmem, errno, hrefused⟩)
  · exact hnot haffordable
  · exact absurd hlength (not_le.mpr hlong)
  · rw [show dir.fault = none from hfault] at hsome
    cases hsome
  · cases levels with
    | zero => exact hlevels rfl
    | succ levels =>
        obtain ⟨child, hchild, -⟩ := (hentries entry (hlisted ▸ hmem)).2 _ hrefused
        cases hchild

/-- A search through an empty directory within the bounds hides nothing. -/
lemma visits_of_empty (levels : Nat) (dir : Dir) (seen : Nat) (hempty : Empty levels dir)
    (hsize : seen + size levels dir ≤ maxProbeEntries) :
    (∀ visit ∈ (visits levels dir seen).1, ¬visit.Hides) ∧
      (visits levels dir seen).2 = seen + size levels dir := by
  induction levels generalizing dir seen with
  | zero =>
      obtain ⟨hhides, hafter, -⟩ := not_hides_of_empty hempty hsize
      exact ⟨List.forall_mem_singleton.mpr hhides, hafter⟩
  | succ levels ih =>
      rw [size, ← Nat.add_assoc] at hsize ⊢
      obtain ⟨hhides, hafter, hlisted⟩ :=
        not_hides_of_empty hempty ((Nat.le_add_right _ _).trans hsize)
      have haffordable : (⟨dir, seen, levels + 1⟩ : Visit).Affordable :=
        not_not.mp fun hnot => hhides (.inl hnot)
      have hchildren : ∀ entry ∈ dir.entries, ∀ child,
          entry.kind = .directory (.ok child) → Empty levels child := by
        intro entry hentry child hkind
        obtain ⟨_, hsame, hchild⟩ := (hempty.2.2 entry hentry).2 _ hkind
        cases hsame
        exact hchild
      obtain ⟨hbelow, hsum⟩ := visitEach_of_empty ih hchildren hsize
      rw [visits, if_pos haffordable, hafter, hlisted]
      exact ⟨List.forall_mem_cons.mpr ⟨hhides, hbelow⟩, hsum⟩

/-- An answer that the directory is readable and empty can be relied on exactly if something that
the search comes to reports, or nothing hides anything. -/
theorem empty_readable_iff (dir : Dir) :
    EmptyReadableIsHonest dir ↔
      (∃ visit ∈ (visits maxProbeDepth dir 0).1, visit.Reports) ∨
        ∀ visit ∈ (visits maxProbeDepth dir 0).1, ¬visit.Hides := by
  unfold EmptyReadableIsHonest
  rw [boundedProbeOutcome_eq_emptyReadable_iff, or_self, representative_eq_noRegularFile_iff]
  constructor
  · intro h
    by_cases hreports : ∀ visit ∈ (visits maxProbeDepth dir 0).1, ¬visit.Reports
    · obtain ⟨hempty, hsize⟩ := h hreports
      exact .inr (visits_of_empty _ dir 0 hempty (by rwa [Nat.zero_add])).1
    · simp only [not_forall, not_not] at hreports
      obtain ⟨visit, hmem, hvisit⟩ := hreports
      exact .inl ⟨visit, hmem, hvisit⟩
  · rintro (⟨visit, hmem, hvisit⟩ | hhides) hreports
    · exact absurd hvisit (hreports visit hmem)
    · obtain ⟨hempty, hsum, hbound⟩ := empty_of_visits _ dir 0 hreports hhides (Nat.zero_le _)
      rw [hsum, Nat.zero_add] at hbound
      exact ⟨hempty, hbound⟩

/-- A directory whose only entry is a directory that is refused. -/
def sampleRefused : Dir := .mk [⟨none, .directory (.error EACCES)⟩] none

/-- It is reported as empty and readable. -/
theorem refused_is_emptyReadable : ¬EmptyReadableIsHonest sampleRefused := by
  intro h
  obtain ⟨⟨-, -, hentries⟩, -⟩ := h (.inl (by decide))
  obtain ⟨child, hchild, -⟩ := (hentries _ List.mem_cons_self).2 _ rfl
  cases hchild

end AgentRuntimeOps.Groupware
