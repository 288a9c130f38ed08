import AgentRuntimeOps.Lib.Text
import Mathlib.Data.List.Nodup
import Mathlib.Order.Lattice.Nat

/-!
# Version notes

`domain/hermes_config.py`: the notes that an operator writes for versions.  An entry is edited or
published by one call at a time, and each call puts the entry in front of all others.
-/

namespace AgentRuntimeOps.VersionNotes

open AgentRuntimeOps.Lib

/-! ## Versions and dates -/

/-- A text without the line feed that a pattern admits before its end. -/
def untilEnd (text : Text) : Text := if text.getLast? = some 10 then text.dropLast else text

/-- Digits, at least and at most so many. -/
def isDigits (least most : Nat) (text : Text) : Bool :=
  decide (least ≤ text.length ∧ text.length ≤ most) && text.all fun c => 48 ≤ c && c ≤ 57

/-- The numbers of a version. -/
def numbers (version : Text) : List Text :=
  (untilEnd version).splitOnP fun c => c == 46 || c == 45

/-- The separators of a version. -/
def separators (version : Text) : Text := (untilEnd version).filter fun c => c == 46 || c == 45

/-- `_VERSION_NOTE_VERSION_RE` -/
def isVersion (version : Text) : Bool :=
  match numbers version, separators version with
  | [year, month, day], [46, 46] => isDigits 4 4 year && isDigits 1 2 month && isDigits 1 2 day
  | [year, month, day, rebuild], [46, 46, 45] =>
      isDigits 4 4 year && isDigits 1 2 month && isDigits 1 2 day &&
        isDigits 1 rebuild.length rebuild
  | _, _ => false

/-- `_VERSION_NOTE_DATE_RE` -/
def isDate (date : Text) : Bool :=
  match (untilEnd date).splitOnP (· == 45) with
  | [year, month, day] => isDigits 4 4 year && isDigits 2 2 month && isDigits 2 2 day
  | _ => false

/-- What a version is newer by: year, month, day, and the number of a rebuild. -/
def age (version : Text) : List Nat :=
  (numbers version).map fun digits => digits.foldl (fun n c => 10 * n + (c - 48)) 0

/-! ## Calls -/

/-- An entry of the list. -/
structure Entry where
  version : Text
  notes : List Text
  date : Option Text
  customerRelease : Bool
  deriving DecidableEq

/-- Why a note is rejected. -/
inductive Rejection where
  | invalidVersion
  | invalidDate
  | noNote
  | tooManyNotes
  | noteTooLong
  deriving DecidableEq

/-- What `upsert_version_note` is called with. -/
structure Upsert where
  version : Text
  notes : List Text := []
  date : Text := []
  customerRelease : Option Bool := none

namespace Upsert

variable (call : Upsert)

/-- The notes that are not blank. -/
def cleaned : List Text := (call.notes.map Text.strip).filter (· ≠ [])

/-- The checks of `upsert_version_note`. -/
def rejected : Option Rejection :=
  if isVersion call.version = false then some .invalidVersion
  else if call.date ≠ [] ∧ isDate call.date = false then some .invalidDate
  else if call.cleaned = [] ∧ call.customerRelease = none then some .noNote
  else if 10 < call.cleaned.length then some .tooManyNotes
  else if call.cleaned.any (fun note => decide (300 < note.length)) then some .noteTooLong
  else none

/-- The entry that is written, where there was another before. -/
def entry (previous : Option Entry) : Entry where
  version := call.version
  notes := if call.cleaned = [] then (previous.map Entry.notes).getD [] else call.cleaned
  date := if call.date = [] then previous.bind Entry.date else some call.date
  customerRelease := call.customerRelease.getD (previous.any Entry.customerRelease)

end Upsert

/-- An entry that says nothing. -/
def Entry.isVoid (entry : Entry) : Bool := entry.notes.isEmpty && !entry.customerRelease

/-- The entry of a version. -/
def entryOf (version : Text) (entries : List Entry) : Option Entry :=
  entries.find? fun entry => entry.version = version

/-- The entries of all other versions. -/
def remaining (version : Text) (entries : List Entry) : List Entry :=
  entries.filter fun entry => entry.version ≠ version

/-- `upsert_version_note` -/
def upsertVersionNote (entries : List Entry) (call : Upsert) : Except Rejection (List Entry) :=
  match call.rejected with
  | some rejection => .error rejection
  | none =>
      let entry := call.entry (entryOf call.version entries)
      if entry.isVoid then .ok (remaining call.version entries)
      else .ok (entry :: remaining call.version entries)

/-- `remove_version_note` -/
def removeVersionNote (entries : List Entry) (version : Text) : List Entry × Bool :=
  (remaining version entries, decide ((remaining version entries).length ≠ entries.length))

/-- A call. -/
inductive Call where
  | upsert (call : Upsert)
  | remove (version : Text)

/-- What a call leaves; a rejected one leaves the list as it was. -/
def step (entries : List Entry) : Call → List Entry
  | .upsert call => (upsertVersionNote entries call).toOption.getD entries
  | .remove version => (removeVersionNote entries version).1

/-- The list after some calls. -/
def run (calls : List Call) : List Entry := calls.foldl step []

/-! ## One call -/

section steps

variable {version : Text} {entries : List Entry} {call : Upsert} {entry : Entry}

lemma run_append (calls : List Call) (call : Call) :
    run (calls ++ [call]) = step (run calls) call := by
  unfold run
  rw [List.foldl_append, List.foldl_cons, List.foldl_nil]

/-- The versions of a list. -/
def versions (entries : List Entry) : List Text := entries.map Entry.version

lemma mem_remaining : entry ∈ remaining version entries ↔
    entry ∈ entries ∧ entry.version ≠ version := by
  unfold remaining
  rw [List.mem_filter, decide_eq_true_eq]

lemma step_rejected (h : call.rejected ≠ none) : step entries (.upsert call) = entries := by
  obtain ⟨rejection, hrejection⟩ := Option.ne_none_iff_exists'.mp h
  rw [step, upsertVersionNote, hrejection]
  rfl

lemma step_void (h : call.rejected = none)
    (hvoid : (call.entry (entryOf call.version entries)).isVoid = true) :
    step entries (.upsert call) = remaining call.version entries := by
  rw [step, upsertVersionNote, h]
  dsimp only
  rw [if_pos hvoid]
  rfl

lemma step_kept (h : call.rejected = none)
    (hkept : (call.entry (entryOf call.version entries)).isVoid = false) :
    step entries (.upsert call) =
      call.entry (entryOf call.version entries) :: remaining call.version entries := by
  rw [step, upsertVersionNote, h]
  dsimp only
  rw [if_neg (by rw [hkept]; nofun)]
  rfl

lemma step_remove : step entries (.remove version) = remaining version entries := rfl

/-- What a call makes of the entry of a version. -/
def nextEntry (version : Text) (previous : Option Entry) : Call → Option Entry
  | .upsert call =>
      if call.version = version ∧ call.rejected = none then
        if (call.entry previous).isVoid then none else some (call.entry previous)
      else previous
  | .remove removed => if removed = version then none else previous

lemma entryOf_remaining_self : entryOf version (remaining version entries) = none := by
  unfold entryOf
  rw [List.find?_eq_none]
  intro entry hentry
  rw [decide_eq_true_eq]
  exact (mem_remaining.mp hentry).2

lemma entryOf_remaining {other : Text} (h : other ≠ version) :
    entryOf version (remaining other entries) = entryOf version entries := by
  unfold entryOf remaining
  rw [List.find?_filter]
  congr 1
  funext entry
  by_cases hversion : entry.version = version
  · simp [hversion, h.symm]
  · simp [hversion]

/-- A call concerns one entry. -/
lemma entryOf_step (call : Call) :
    entryOf version (step entries call) = nextEntry version (entryOf version entries) call := by
  cases call with
  | remove removed =>
      rw [step_remove, nextEntry]
      split_ifs with h
      · rw [h, entryOf_remaining_self]
      · exact entryOf_remaining h
  | upsert call =>
      rw [nextEntry]
      by_cases hrejected : call.rejected = none
      · have hfront : ∀ entry rest, entry.version = call.version →
            entryOf version (entry :: rest) =
              if call.version = version then some entry else entryOf version rest := by
          intro entry rest hentry
          unfold entryOf
          rw [List.find?_cons, hentry]
          split_ifs with h <;> simp [h]
        cases hvoid : (call.entry (entryOf call.version entries)).isVoid with
        | true =>
            rw [step_void hrejected hvoid]
            split_ifs with h h'
            · rw [h.1, entryOf_remaining_self]
            · rw [← h.1, hvoid] at h'
              exact absurd rfl h'
            · exact entryOf_remaining fun heq => h ⟨heq, hrejected⟩
        | false =>
            rw [step_kept hrejected hvoid, hfront _ _ rfl]
            by_cases hversion : call.version = version
            · subst hversion
              rw [if_pos rfl, if_pos ⟨rfl, hrejected⟩, hvoid]
              rfl
            · rw [if_neg hversion, if_neg fun h => hversion h.1, entryOf_remaining hversion]
      · rw [step_rejected hrejected, if_neg fun h => hrejected h.2]

/-- Every call leaves one entry a version. -/
lemma nodup_step (h : (versions entries).Nodup) (call : Call) :
    (versions (step entries call)).Nodup := by
  have hremaining : ∀ version, (versions (remaining version entries)).Nodup := fun version =>
    h.sublist (List.filter_sublist.map _)
  cases call with
  | remove removed => exact hremaining removed
  | upsert call =>
      by_cases hrejected : call.rejected = none
      · cases hvoid : (call.entry (entryOf call.version entries)).isVoid with
        | true =>
            rw [step_void hrejected hvoid]
            exact hremaining _
        | false =>
            rw [step_kept hrejected hvoid]
            refine List.nodup_cons.mpr ⟨fun hmem => ?_, hremaining _⟩
            obtain ⟨entry, hentry, heq⟩ := List.mem_map.mp hmem
            exact (mem_remaining.mp hentry).2 heq
      · rwa [step_rejected hrejected]

/-- Newest version first. -/
def NewestFirst (entries : List Entry) : Prop :=
  entries.Pairwise fun entry later => age later.version ≤ age entry.version

/-- A call that leaves an entry of a version does so for one that is as new as all others. -/
def InOrder (entries : List Entry) : Call → Prop
  | .upsert call => call.rejected = none →
      (call.entry (entryOf call.version entries)).isVoid = false →
        ∀ entry ∈ entries, entry.version ≠ call.version → age entry.version ≤ age call.version
  | .remove _ => True

lemma newestFirst_step_iff (h : NewestFirst entries) (call : Call) :
    NewestFirst (step entries call) ↔ InOrder entries call := by
  have hremaining : ∀ version, NewestFirst (remaining version entries) := fun version =>
    h.sublist List.filter_sublist
  cases call with
  | remove removed => exact iff_of_true (hremaining removed) trivial
  | upsert call =>
      rw [InOrder]
      by_cases hrejected : call.rejected = none
      · cases hvoid : (call.entry (entryOf call.version entries)).isVoid with
        | true =>
            rw [step_void hrejected hvoid]
            exact iff_of_true (hremaining _) nofun
        | false =>
            rw [step_kept hrejected hvoid, NewestFirst, List.pairwise_cons]
            constructor
            · exact fun hsorted _ _ entry hentry hne =>
                hsorted.1 entry (mem_remaining.mpr ⟨hentry, hne⟩)
            · intro hnewest
              refine ⟨fun entry hentry => ?_, hremaining _⟩
              obtain ⟨hmem, hne⟩ := mem_remaining.mp hentry
              exact hnewest hrejected rfl entry hmem hne
      · rw [step_rejected hrejected]
        exact iff_of_true h fun hnone => absurd hnone hrejected

end steps

/-! ## Runs -/

/-- The version was absent before the calls, and present after each of them. -/
structure SinceAbsent (version : Text) (calls recent : List Call) : Prop where
  absent : ∃ past, calls = past ++ recent ∧ entryOf version (run past) = none ∧
    ∀ front, front <+: recent → front ≠ [] → entryOf version (run (past ++ front)) ≠ none

/-- The call, if it is one for the version that is not rejected. -/
def accepted (version : Text) : Call → Option Upsert
  | .upsert call => if call.version = version ∧ call.rejected = none then some call else none
  | .remove _ => none

/-- The flags that are set. -/
def flagsSet (version : Text) (calls : List Call) : List Bool :=
  (calls.filterMap (accepted version)).filterMap Upsert.customerRelease

/-- The dates that are given. -/
def datesGiven (version : Text) (calls : List Call) : List Text :=
  ((calls.filterMap (accepted version)).map Upsert.date).filter (· ≠ [])

/-- The notes that are given. -/
def notesGiven (version : Text) (calls : List Call) : List (List Text) :=
  ((calls.filterMap (accepted version)).map Upsert.cleaned).filter (· ≠ [])

/-- The entry that some calls write. -/
def written (version : Text) (calls : List Call) : Entry where
  version := version
  notes := (notesGiven version calls).getLast?.getD []
  date := (datesGiven version calls).getLast?
  customerRelease := (flagsSet version calls).getLast?.getD false

section runs

variable {version : Text} {calls recent : List Call} {call : Call}

lemma written_skip (h : accepted version call = none) :
    written version (recent ++ [call]) = written version recent := by
  simp [written, notesGiven, datesGiven, flagsSet, h]

lemma written_append {upsert : Upsert} (h : accepted version call = some upsert)
    (hversion : upsert.version = version) (previous : Option Entry)
    (hprevious : previous = some (written version recent) ∨ (previous = none ∧ recent = [])) :
    written version (recent ++ [call]) = upsert.entry previous := by
  have hnotes : (previous.map Entry.notes).getD [] =
      (notesGiven version recent).getLast?.getD [] := by
    obtain rfl | ⟨rfl, rfl⟩ := hprevious <;> rfl
  have hdate : previous.bind Entry.date = (datesGiven version recent).getLast? := by
    obtain rfl | ⟨rfl, rfl⟩ := hprevious <;> rfl
  have hflag : previous.any Entry.customerRelease =
      (flagsSet version recent).getLast?.getD false := by
    obtain rfl | ⟨rfl, rfl⟩ := hprevious <;> rfl
  rw [Upsert.entry, hnotes, hdate, hflag, hversion]
  unfold written notesGiven datesGiven flagsSet
  congr 1
  · by_cases hempty : upsert.cleaned = [] <;> simp [List.filterMap_append, h, hempty]
  · by_cases hempty : upsert.date = [] <;> simp [List.filterMap_append, h, hempty]
  · cases hset : upsert.customerRelease <;> simp [List.filterMap_append, h, hset]

/-- An entry is what the calls wrote since it was last absent. -/
lemma entryOf_run (past : List Call) (habsent : entryOf version (run past) = none)
    (hpresent : ∀ front, front <+: recent → front ≠ [] →
      entryOf version (run (past ++ front)) ≠ none) (hne : recent ≠ []) :
    entryOf version (run (past ++ recent)) = some (written version recent) := by
  induction recent using List.reverseRecOn with
  | nil => exact absurd rfl hne
  | append_singleton front call ih =>
      have hprevious : entryOf version (run (past ++ front)) = some (written version front) ∨
          (entryOf version (run (past ++ front)) = none ∧ front = []) := by
        by_cases hfront : front = []
        · subst hfront
          rw [List.append_nil]
          exact .inr ⟨habsent, rfl⟩
        · exact .inl (ih (fun start hstart => hpresent start
            (hstart.trans (List.prefix_append _ _))) hfront)
      have hsome := hpresent (front ++ [call]) (List.prefix_refl _) hne
      rw [← List.append_assoc, run_append, entryOf_step] at hsome ⊢
      generalize entryOf version (run (past ++ front)) = previous at hprevious hsome ⊢
      cases hcall : accepted version call with
      | none =>
          rw [written_skip hcall]
          cases call with
          | remove removed =>
              rw [nextEntry] at hsome ⊢
              split_ifs at hsome ⊢
              · exact absurd rfl hsome
              · exact hprevious.resolve_right fun h => hsome h.1
          | upsert upsert =>
              rw [accepted] at hcall
              rw [nextEntry] at hsome ⊢
              split_ifs at hcall with haccepted
              rw [if_neg haccepted] at hsome ⊢
              exact hprevious.resolve_right fun h => hsome h.1
      | some upsert =>
          cases call with
          | remove removed => cases hcall
          | upsert given =>
              have haccepted := hcall
              rw [accepted] at haccepted
              split_ifs at haccepted with hversion
              cases haccepted
              rw [written_append hcall hversion.1 previous hprevious]
              rw [nextEntry, if_pos hversion] at hsome ⊢
              split_ifs at hsome ⊢
              · exact absurd rfl hsome
              · rfl

/-- One entry a version, newest first, each as it was last written since it was absent. -/
structure WellFormed (calls : List Call) : Prop where
  single : (versions (run calls)).Nodup
  ordered : NewestFirst (run calls)
  kept : ∀ entry ∈ run calls, (∃ recent, SinceAbsent entry.version calls recent) ∧
    ∀ recent, SinceAbsent entry.version calls recent →
      entry.customerRelease = (flagsSet entry.version recent).getLast?.getD false ∧
      entry.date = (datesGiven entry.version recent).getLast? ∧
      entry.notes = (notesGiven entry.version recent).getLast?.getD []

lemma nodup_run (calls : List Call) : (versions (run calls)).Nodup := by
  induction calls using List.reverseRecOn with
  | nil => exact List.nodup_nil
  | append_singleton front call ih =>
      rw [run_append]
      exact nodup_step ih call

lemma entryOf_of_mem {entry : Entry} {entries : List Entry} (h : (versions entries).Nodup)
    (hmem : entry ∈ entries) : entryOf entry.version entries = some entry := by
  have hsome : (entryOf entry.version entries).isSome = true :=
    List.find?_isSome.mpr ⟨entry, hmem, by simp⟩
  obtain ⟨found, hfound⟩ := Option.isSome_iff_exists.mp hsome
  have hversion := List.find?_some hfound
  rw [decide_eq_true_eq] at hversion
  have heq : found = entry :=
    List.inj_on_of_nodup_map h (List.mem_of_find?_eq_some hfound) hmem hversion
  rw [hfound, heq]

/-- A version that is present was absent before. -/
lemma exists_sinceAbsent (h : entryOf version (run calls) ≠ none) :
    ∃ recent, SinceAbsent version calls recent := by
  induction calls using List.reverseRecOn with
  | nil => exact absurd rfl h
  | append_singleton front call ih =>
      by_cases hfront : entryOf version (run front) = none
      · refine ⟨[call], front, rfl, hfront, fun start hstart hne => ?_⟩
        obtain rfl | hnil := (@List.prefix_concat_iff _ start [] call).mp hstart
        · exact h
        · exact absurd (List.prefix_nil.mp hnil) hne
      · obtain ⟨recent, past, rfl, habsent, hpresent⟩ := ih hfront
        refine ⟨recent ++ [call], past, List.append_assoc _ _ _, habsent,
          fun start hstart hne => ?_⟩
        obtain rfl | hbelow := List.prefix_concat_iff.mp hstart
        · rwa [← List.append_assoc]
        · exact hpresent start hbelow hne

/-- Every entry is as it was last written. -/
lemma written_of_mem {entry : Entry} (hmem : entry ∈ run calls)
    (h : SinceAbsent entry.version calls recent) : entry = written entry.version recent := by
  obtain ⟨past, rfl, habsent, hpresent⟩ := h.absent
  have hentry := entryOf_of_mem (nodup_run _) hmem
  have hne : recent ≠ [] := by
    rintro rfl
    rw [List.append_nil, habsent] at hentry
    cases hentry
  rw [entryOf_run past habsent hpresent hne] at hentry
  exact (Option.some.inj hentry).symm

/-- **When version notes stay well-formed**: as long as no call writes an entry for a version that
is older than another one in the list. -/
theorem wellFormed_iff (calls : List Call) :
    (∀ front, front <+: calls → WellFormed front) ↔
      ∀ front call, front ++ [call] <+: calls → InOrder (run front) call := by
  constructor
  · intro h front call hfront
    have hbefore := (h front ((List.prefix_append _ _).trans hfront)).ordered
    have hafter := (h _ hfront).ordered
    rw [run_append] at hafter
    exact (newestFirst_step_iff hbefore call).mp hafter
  · intro h front hfront
    refine ⟨nodup_run front, ?_, fun entry hmem =>
      ⟨exists_sinceAbsent (by rw [entryOf_of_mem (nodup_run _) hmem]; nofun),
        fun recent hrecent => ?_⟩⟩
    · induction front using List.reverseRecOn with
      | nil => exact List.Pairwise.nil
      | append_singleton front call ih =>
          rw [run_append]
          exact (newestFirst_step_iff (ih ((List.prefix_append _ _).trans hfront)) call).mpr
            (h front call hfront)
    · have hentry := written_of_mem hmem hrecent
      exact ⟨congrArg Entry.customerRelease hentry, congrArg Entry.date hentry,
        congrArg Entry.notes hentry⟩

end runs

/-- A note for a version, and later one for an older version. -/
def olderLast : List Call :=
  [.upsert { version := Text.of "2026.2.1", notes := [Text.of "new"] },
    .upsert { version := Text.of "2026.1.1", notes := [Text.of "old"] }]

/-- The older version stands first. -/
theorem older_first : ¬WellFormed olderLast := fun h =>
  absurd h.ordered (by unfold NewestFirst; decide)

end AgentRuntimeOps.VersionNotes
