import AgentRuntimeOps.Mounts.Findmnt
import Mathlib.Data.List.DropRight

/-!
# Unmounting a tree

`unmountTree` lists the mounts at or under a root once, as a set of targets, and unmounts each
target once, the longer ones first.
-/

namespace AgentRuntimeOps.Mounts

open Lib

/-- What `subprocess.run` gives back. -/
structure Completed where
  returncode : Int
  stdout : Text
  stderr : Text

/-- The commands of the host, and the order in which Python goes through a set. -/
structure Host where
  /-- `findmnt -P`; an error is the exception of `subprocess.run`. -/
  findmnt : List Mount → Except String Completed
  findmnt_listing : ∀ {table proc}, findmnt table = .ok proc → proc.returncode = 0 →
    proc.stdout = listing table
  /-- The message with which `umount` refuses a path where something is mounted, if it does. -/
  umount : Text → Except String (Option Text)
  setOrder : List Text → List Text
  setOrder_nodup : ∀ items, (setOrder items).Nodup
  mem_setOrder : ∀ {items item}, item ∈ setOrder items ↔ item ∈ items

/-- `text.rstrip("/")` -/
def rstripSlash (text : Text) : Text := text.rdropWhile fun c => c = 47

/-- `target == path or target.startswith(path.rstrip("/") + "/")` -/
def isUnder (path target : Text) : Bool :=
  target = path || (rstripSlash path ++ [47]).isPrefixOf target

/-- `findmnt_under`, without a container. -/
def findmntUnder (host : Host) (table : List Mount) (path : Text) :
    Except String (Int × Text × List Row) := do
  let proc ← host.findmnt table
  let rows ← parseFindmntPairs proc.stdout
  let error := if proc.stderr = [] then proc.stdout else proc.stderr
  pure (proc.returncode, error.strip, rows.filter fun row =>
    ((row.get (Text.of "target")).map (isUnder path)).getD false)

/-- `sorted({row["target"] …}, key=len, reverse=True)` -/
def unmountTargets (host : Host) (rows : List Row) : List Text :=
  (host.setOrder ((rows.filterMap fun row => row.get (Text.of "target")).filter
    fun target => !target.isEmpty)).mergeSort fun a b => b.length ≤ a.length

/-- The table without the topmost mount at a path. -/
def removeTop (raw : List UInt8) : List Mount → Option (List Mount)
  | [] => none
  | m :: table =>
      match removeTop raw table with
      | some rest => some (m :: rest)
      | none => if m.target.bytes = raw then some table else none

/-- One `umount target`: the failure, if any, and the table after it. -/
def umountOne (host : Host) (target : Text) (table : List Mount) :
    Except String (Option Text × List Mount) := do
  match ← host.umount target with
  | some error => pure (some (target ++ Text.of ": " ++ error.strip), table)
  | none =>
      match target.encode.bind fun raw => removeTop raw table with
      | some rest => pure (none, rest)
      | none => pure (some (target ++ Text.of ": not mounted."), table)

/-- The loop over the targets. -/
def unmountEach (host : Host) : List Text → List Mount → Except String (List Text × List Mount)
  | [], table => pure ([], table)
  | target :: targets, table => do
      let (failure, table) ← umountOne host target table
      let (failures, table) ← unmountEach host targets table
      pure (failure.toList ++ failures, table)

/-- `unmount_tree`, with the table after it. -/
def unmountTree (host : Host) (root : MountPath) (table : List Mount) :
    Except String ((Nat × List Text) × List Mount) := do
  let (rc, error, rows) ← findmntUnder host table (Text.fsdecode root.bytes)
  if rc ≠ 0 then
    pure ((1, [if error = [] then Text.of "findmnt_failed" else error]), table)
  else
    let (failures, table) ← unmountEach host (unmountTargets host rows) table
    pure ((failures.length, failures), table)

/-! ## What is left of the table -/

/-- The paths where something is mounted, one for each mount. -/
def mounted (table : List Mount) : List (List UInt8) := table.map fun m => m.target.bytes

lemma removeTop_eq_none_iff {raw : List UInt8} {table : List Mount} :
    removeTop raw table = none ↔ raw ∉ mounted table := by
  induction table with
  | nil => exact ⟨fun _ => List.not_mem_nil, fun _ => rfl⟩
  | cons m table ih =>
      unfold removeTop
      cases h : removeTop raw table with
      | some rest =>
          have hmem : raw ∈ mounted table := by
            by_contra hmem
            rw [ih.mpr hmem] at h
            exact nomatch h
          exact ⟨nofun, fun h => absurd (List.mem_cons_of_mem _ hmem) h⟩
      | none =>
          have hmem := ih.mp h
          dsimp only
          split_ifs with heq
          · exact ⟨nofun, fun h => absurd (List.mem_cons.mpr (.inl heq.symm)) h⟩
          · refine ⟨fun _ hraw => ?_, fun _ => rfl⟩
            rcases List.mem_cons.mp hraw with hraw | hraw
            · exact heq hraw.symm
            · exact hmem hraw

/-- Unmounting takes one mount away, at that path. -/
lemma removeTop_perm {raw : List UInt8} {table rest : List Mount}
    (h : removeTop raw table = some rest) :
    (mounted rest).Perm ((mounted table).erase raw) ∧ ∀ m ∈ rest, m ∈ table := by
  induction table generalizing rest with
  | nil => exact nomatch h
  | cons m table ih =>
      unfold removeTop at h
      cases hrest : removeTop raw table with
      | some rest' =>
          rw [hrest] at h
          dsimp only at h
          cases h
          obtain ⟨hperm, hmem⟩ := ih hrest
          have hraw : raw ∈ mounted table := by
            by_contra hraw
            rw [removeTop_eq_none_iff.mpr hraw] at hrest
            exact nomatch hrest
          refine ⟨(hperm.cons m.target.bytes).trans ?_, fun m' hm' => ?_⟩
          · show List.Perm _ ((m.target.bytes :: mounted table).erase raw)
            by_cases heq : m.target.bytes = raw
            · rw [heq, List.erase_cons_head]
              exact (List.perm_cons_erase hraw).symm
            · rw [List.erase_cons_tail (by simpa using heq)]
          · rcases List.mem_cons.mp hm' with rfl | hm'
            · exact List.mem_cons_self
            · exact List.mem_cons_of_mem _ (hmem m' hm')
      | none =>
          rw [hrest] at h
          dsimp only at h
          split_ifs at h with heq
          cases h
          refine ⟨?_, fun m' hm' => List.mem_cons_of_mem _ hm'⟩
          show List.Perm _ ((m.target.bytes :: mounted table).erase raw)
          rw [heq, List.erase_cons_head]

/-- `umount` takes a mount away at the path of the target. -/
def Removes (host : Host) (table : List Mount) (target : Text) : Prop :=
  host.umount target = .ok none ∧ ∃ raw, target.encode = some raw ∧ raw ∈ mounted table

lemma umountOne_none {host : Host} {target : Text} {table rest : List Mount}
    (h : umountOne host target table = .ok (none, rest)) :
    ∃ raw, host.umount target = .ok none ∧ target.encode = some raw ∧
      removeTop raw table = some rest := by
  unfold umountOne at h
  obtain ⟨refusal, hrefusal, h⟩ := except_bind_ok.mp h
  cases refusal with
  | some error => exact nomatch h
  | none =>
      cases hraw : target.encode with
      | none =>
          rw [hraw] at h
          exact nomatch h
      | some raw =>
          rw [hraw] at h
          dsimp only [Option.bind_some] at h
          cases hremove : removeTop raw table with
          | none =>
              rw [hremove] at h
              exact nomatch h
          | some rest' =>
              rw [hremove] at h
              cases h
              exact ⟨raw, hrefusal, rfl, hremove⟩

lemma umountOne_of_removes {host : Host} {target : Text} {table : List Mount}
    (h : Removes host table target) :
    ∃ raw rest, target.encode = some raw ∧ removeTop raw table = some rest ∧
      umountOne host target table = .ok (none, rest) := by
  obtain ⟨hrefusal, raw, hraw, hmem⟩ := h
  cases hremove : removeTop raw table with
  | none => exact absurd hmem (removeTop_eq_none_iff.mp hremove)
  | some rest =>
      refine ⟨raw, rest, hraw, hremove, ?_⟩
      unfold umountOne
      rw [hrefusal]
      show (match target.encode.bind fun raw => removeTop raw table with
        | some rest => pure (none, rest)
        | none => pure (some (target ++ Text.of ": not mounted."), table)) = _
      rw [hraw, Option.bind_some, hremove]
      rfl

lemma encode_inj {s t : Text} {raw : List UInt8} (hs : s.encode = some raw)
    (ht : t.encode = some raw) : s = t :=
  Option.some.inj ((Text.decode_of_encode hs).symm.trans (Text.decode_of_encode ht))

/-- A run without failures has unmounted every target once. -/
lemma unmountEach_ok {host : Host} {targets : List Text} {table rest : List Mount}
    (h : unmountEach host targets table = .ok ([], rest)) (hnodup : targets.Nodup) :
    (∀ target ∈ targets, Removes host table target) ∧ (∀ m ∈ rest, m ∈ table) ∧
      (mounted rest).Perm ((mounted table).diff (targets.filterMap Text.encode)) := by
  induction targets generalizing table with
  | nil =>
      cases h
      exact ⟨fun _ h => absurd h List.not_mem_nil, fun _ h => h, List.Perm.refl _⟩
  | cons target targets ih =>
      rw [unmountEach] at h
      obtain ⟨⟨failure, table'⟩, hone, h⟩ := except_bind_ok.mp h
      obtain ⟨⟨failures, rest'⟩, hrest, h⟩ := except_bind_ok.mp h
      cases h' : failure with
      | some error =>
          subst h'
          exact nomatch h
      | none =>
          subst h'
          have hfailures : failures = [] := (Prod.mk.inj (Except.ok.inj h)).1
          have heq : rest' = rest := (Prod.mk.inj (Except.ok.inj h)).2
          subst hfailures heq
          obtain ⟨raw, hrefusal, hraw, hremove⟩ := umountOne_none hone
          obtain ⟨hperm, hsub⟩ := removeTop_perm hremove
          obtain ⟨hall, hsub', hperm'⟩ := ih hrest (List.nodup_cons.mp hnodup).2
          have hmem : raw ∈ mounted table := by
            by_contra hmem
            rw [removeTop_eq_none_iff.mpr hmem] at hremove
            exact nomatch hremove
          refine ⟨fun t ht => ?_, fun m hm => hsub m (hsub' m hm), ?_⟩
          · rcases List.mem_cons.mp ht with rfl | ht
            · exact ⟨hrefusal, raw, hraw, hmem⟩
            · obtain ⟨hrefusal', raw', hraw', hmem'⟩ := hall t ht
              exact ⟨hrefusal', raw', hraw', List.mem_of_mem_erase (hperm.mem_iff.mp hmem')⟩
          · rw [List.filterMap_cons_some hraw, List.diff_cons]
            exact hperm'.trans (hperm.diff_right _)

/-- Targets that can be unmounted one by one are unmounted without failures. -/
lemma unmountEach_of_removes {host : Host} {targets : List Text} {table : List Mount}
    (h : ∀ target ∈ targets, Removes host table target) (hnodup : targets.Nodup) :
    ∃ rest, unmountEach host targets table = .ok ([], rest) := by
  induction targets generalizing table with
  | nil => exact ⟨table, rfl⟩
  | cons target targets ih =>
      obtain ⟨raw, table', hraw, hremove, hone⟩ :=
        umountOne_of_removes (h target List.mem_cons_self)
      obtain ⟨hperm, -⟩ := removeTop_perm hremove
      obtain ⟨rest, hrest⟩ := @ih table' (fun t ht => by
        obtain ⟨hrefusal, raw', hraw', hmem⟩ := h t (List.mem_cons_of_mem _ ht)
        have hne : raw' ≠ raw := by
          rintro rfl
          have heq := encode_inj hraw' hraw
          exact (List.nodup_cons.mp hnodup).1 (heq ▸ ht)
        exact ⟨hrefusal, raw', hraw', hperm.mem_iff.mpr ((List.mem_erase_of_ne hne).mpr hmem)⟩)
        (List.nodup_cons.mp hnodup).2
      refine ⟨rest, ?_⟩
      rw [unmountEach, hone]
      show (do let (failures, table) ← unmountEach host targets table'; _) = _
      rw [hrest]
      rfl

/-! ## The work list -/

/-- `findmnt` answers with exit status 0. -/
def Answers (host : Host) (table : List Mount) : Prop :=
  ∃ proc, host.findmnt table = .ok proc ∧ proc.returncode = 0

/-- The rows of the mounts that are shown at or under a path. -/
def rowsUnder (path : Text) (table : List Mount) : List Row :=
  (table.filter fun m => isUnder path m.shown).map Mount.row

lemma findmntUnder_of_answers {host : Host} {table : List Mount} (h : Answers host table)
    (path : Text) :
    ∃ error, findmntUnder host table path = .ok (0, error, rowsUnder path table) := by
  obtain ⟨proc, hproc, hrc⟩ := h
  refine ⟨(if proc.stderr = [] then proc.stdout else proc.stderr).strip, ?_⟩
  unfold findmntUnder
  rw [hproc]
  show (do let rows ← parseFindmntPairs proc.stdout; _) = _
  rw [host.findmnt_listing hproc hrc, parseFindmntPairs_listing]
  show Except.ok (proc.returncode, _, (table.map Mount.row).filter _) = _
  rw [hrc, List.filter_map]
  rfl

lemma answers_of_findmntUnder {host : Host} {table : List Mount} {path error : Text}
    {rows : List Row} (h : findmntUnder host table path = .ok (0, error, rows)) :
    Answers host table := by
  unfold findmntUnder at h
  obtain ⟨proc, hproc, h⟩ := except_bind_ok.mp h
  obtain ⟨rows', -, h⟩ := except_bind_ok.mp h
  exact ⟨proc, hproc, (Prod.mk.inj (Except.ok.inj h)).1⟩

lemma mem_unmountTargets {host : Host} {path : Text} {table : List Mount} {target : Text} :
    target ∈ unmountTargets host (rowsUnder path table) ↔
      ∃ m ∈ table, isUnder path m.shown = true ∧ m.shown = target := by
  unfold unmountTargets rowsUnder
  rw [(List.mergeSort_perm _ _).mem_iff, host.mem_setOrder, List.mem_filter, List.filterMap_map,
    List.mem_filterMap]
  constructor
  · rintro ⟨⟨m, hm, hget⟩, -⟩
    obtain ⟨hm, hunder⟩ := List.mem_filter.mp hm
    exact ⟨m, hm, hunder, Option.some.inj hget⟩
  · rintro ⟨m, hm, hunder, rfl⟩
    refine ⟨⟨m, List.mem_filter.mpr ⟨hm, hunder⟩, rfl⟩, ?_⟩
    simpa using shown_ne_nil m

lemma unmountTargets_nodup (host : Host) (rows : List Row) :
    (unmountTargets host rows).Nodup :=
  (List.mergeSort_perm _ _).nodup_iff.mpr (host.setOrder_nodup _)

/-- A longer target comes before a shorter one. -/
lemma mem_before_of_length_lt {host : Host} {rows : List Row} {child parent : Text}
    {before after : List Text} (htargets : unmountTargets host rows = before ++ parent :: after)
    (hchild : child ∈ unmountTargets host rows) (hlength : parent.length < child.length) :
    child ∈ before := by
  have hsorted : (unmountTargets host rows).Pairwise fun a b => b.length ≤ a.length := by
    refine (List.pairwise_mergeSort (fun a b c hab hbc => ?_) (fun a b => ?_) _).imp
      (fun {a b} h => of_decide_eq_true h)
    · rw [decide_eq_true_eq] at hab hbc ⊢
      exact hbc.trans hab
    · rw [Bool.or_eq_true, decide_eq_true_eq, decide_eq_true_eq]
      exact Nat.le_total _ _
  rw [htargets] at hsorted hchild
  rcases List.mem_append.mp hchild with h | h
  · exact h
  · rcases List.mem_cons.mp h with rfl | h
    · exact absurd hlength (lt_irrefl _)
    · have hle := List.rel_of_pairwise_cons (List.pairwise_append.mp hsorted).2.1 h
      exact absurd hlength (not_lt.mpr hle)

/-! ## At or under the root -/

/-- What is mounted at or under the root, in valid UTF-8, is listed under its own name. -/
lemma listed_of_encode {root : MountPath} {m : Mount} {t : Text}
    (hunder : root.AtOrUnder m.target) (ht : t.encode = some m.target.bytes) :
    m.shown = t ∧ isUnder (Text.fsdecode root.bytes) m.shown = true := by
  have hshown : m.shown = t := decodeFindmntValue_of_encode ht
  refine ⟨hshown, ?_⟩
  rw [hshown]
  unfold isUnder
  rcases hunder with heq | hdir
  · rw [heq] at ht
    rw [show Text.fsdecode root.bytes = t from Text.decodeWith_of_encode _ ht]
    simp
  · rw [Bool.or_eq_true]
    refine Or.inr (List.isPrefixOf_iff_prefix.mpr ?_)
    obtain ⟨chars, hchars, hbytes⟩ := Option.map_eq_some_iff.mp ht
    obtain rfl := Text.chars?_eq_some_iff.mp hchars
    obtain ⟨rest, hrest⟩ := hdir
    unfold MountPath.dir at hrest
    split_ifs at hrest with hroot
    · have hfirst : utf8 chars = [] ++ 47 :: rest := hbytes.trans hrest.symm
      obtain ⟨front, back, rfl, hfront⟩ := exists_utf8_of_append_slash hfirst
      have hnil : front = [] := by
        cases front with
        | nil => rfl
        | cons c front =>
            have hlength := congrArg List.length hfront
            rw [show utf8 (c :: front) = String.utf8EncodeChar c ++ utf8 front from
              List.flatMap_cons, List.length_append, String.length_utf8EncodeChar,
              List.length_nil] at hlength
            have := Char.utf8Size_pos c
            omega
      subst hnil
      rw [hroot, show rstripSlash (Text.fsdecode [47]) = [] by decide]
      exact ⟨Text.ofChars back, rfl⟩
    · have hmiddle : utf8 chars = root.bytes ++ 47 :: rest := by
        rw [hbytes, ← hrest, List.append_assoc, List.singleton_append]
      obtain ⟨front, back, rfl, hfront⟩ := exists_utf8_of_append_slash hmiddle
      have hdecode : Text.fsdecode root.bytes = Text.ofChars front := by
        rw [← hfront]
        exact Text.decodeWith_utf8 _ front
      have hstrip : rstripSlash (Text.ofChars front) = Text.ofChars front := by
        refine List.rdropWhile_eq_self_iff.mpr fun hne hlast => ?_
        obtain ⟨front', c, rfl⟩ : ∃ front' c, front = front' ++ [c] := by
          rcases List.eq_nil_or_concat front with rfl | ⟨front', c, h⟩
          · exact absurd rfl hne
          · exact ⟨front', c, h.trans List.concat_eq_append⟩
        have hc : c.toNat = 47 := by simpa [Text.ofChars] using hlast
        obtain rfl : c = '/' := Char.toNat_inj.mp hc
        refine root.ends hroot ?_
        rw [← hfront, utf8_append]
        exact List.getLast?_concat
      rw [hdecode, hstrip]
      refine ⟨Text.ofChars back, ?_⟩
      rw [List.append_assoc]
      show front.map Char.toNat ++ ('/' :: back).map Char.toNat =
        (front ++ '/' :: back).map Char.toNat
      exact List.map_append.symm

lemma target_eq_of_bytes {p q : MountPath} (h : p.bytes = q.bytes) : p = q := by
  obtain ⟨_, _, _⟩ := p
  obtain ⟨_, _, _⟩ := q
  simpa using h

/-- At or under the root, every path is valid UTF-8 and carries one mount. -/
structure Plain (root : MountPath) (table : List Mount) : Prop where
  readable : ∀ m ∈ table, root.AtOrUnder m.target → ∃ t : Text, t.encode = some m.target.bytes
  single : ∀ m ∈ table, root.AtOrUnder m.target → (mounted table).count m.target.bytes = 1

/-- The listing shows a target that `umount` does not take away. -/
def Refused (host : Host) (root : MountPath) (table : List Mount) : Prop :=
  ∃ m ∈ table, isUnder (Text.fsdecode root.bytes) m.shown = true ∧ ¬ Removes host table m.shown

/-- After a run that reports no failures nothing is mounted at or under the root. -/
def Emptied (host : Host) (root : MountPath) (table : List Mount) : Prop :=
  ∀ messages rest, unmountTree host root table = .ok ((0, messages), rest) →
    ∀ m ∈ rest, ¬ root.AtOrUnder m.target

/-- No target is unmounted before one that is shown for a path below its own. -/
def ChildrenFirst (host : Host) (root : MountPath) (table : List Mount) : Prop :=
  ∀ error rows, findmntUnder host table (Text.fsdecode root.bytes) = .ok (0, error, rows) →
    ∀ m ∈ table, ∀ p ∈ table, p.target.dir <+: m.target.bytes → p.target ≠ m.target →
      m.shown ∈ unmountTargets host rows →
      ∀ before after, unmountTargets host rows = before ++ p.shown :: after → m.shown ∈ before

theorem childrenFirst (host : Host) (root : MountPath) (table : List Mount) :
    ChildrenFirst host root table :=
  fun _ _ _ _ _ _ _ hdir hne hlisted _ _ htargets =>
    mem_before_of_length_lt htargets hlisted (length_shown_lt hdir hne)

/-- A run that reports no failures has gone through the whole work list. -/
lemma unmountTree_zero {host : Host} {root : MountPath} {table rest : List Mount}
    {messages : List Text} (h : unmountTree host root table = .ok ((0, messages), rest)) :
    Answers host table ∧
      unmountEach host (unmountTargets host (rowsUnder (Text.fsdecode root.bytes) table)) table =
        .ok ([], rest) := by
  unfold unmountTree at h
  obtain ⟨⟨rc, error, rows⟩, hrows, h⟩ := except_bind_ok.mp h
  dsimp only at h
  by_cases hrc : rc = 0
  · subst hrc
    rw [if_neg (not_not.mpr rfl)] at h
    have hanswers := answers_of_findmntUnder hrows
    obtain ⟨error', hrows'⟩ := findmntUnder_of_answers hanswers (Text.fsdecode root.bytes)
    have heq := (Prod.mk.inj (Prod.mk.inj (Except.ok.inj (hrows.symm.trans hrows'))).2).2
    subst heq
    obtain ⟨⟨failures, rest'⟩, heach, h⟩ := except_bind_ok.mp h
    obtain ⟨hlength, -⟩ := Prod.mk.inj (Prod.mk.inj (Except.ok.inj h)).1
    have hrest := (Prod.mk.inj (Except.ok.inj h)).2
    have hnil : failures = [] := List.length_eq_zero_iff.mp hlength
    subst hrest hnil
    exact ⟨hanswers, heach⟩
  · rw [if_pos hrc] at h
    exact nomatch (Prod.mk.inj (Prod.mk.inj (Except.ok.inj h)).1).1

/-- Unmounting a tree leaves nothing mounted, where it reports no failures, exactly if a listed
target cannot be taken away or every path in the tree is valid UTF-8 and carries one mount. -/
theorem unmountTree_empties_iff (host : Host) (root : MountPath) (table : List Mount) :
    Emptied host root table ∧ ChildrenFirst host root table ↔
      ¬ Answers host table ∨ Refused host root table ∨ Plain root table := by
  refine (and_iff_left (childrenFirst host root table)).trans ⟨fun hempty => ?_, ?_⟩
  · by_contra hnot
    obtain ⟨hanswers, hnot⟩ := not_or.mp hnot
    obtain ⟨hrefused, hplain⟩ := not_or.mp hnot
    rw [not_not] at hanswers
    have hremoves : ∀ target ∈ unmountTargets host (rowsUnder (Text.fsdecode root.bytes) table),
        Removes host table target := by
      intro target htarget
      obtain ⟨m, hm, hunder, rfl⟩ := mem_unmountTargets.mp htarget
      by_contra hno
      exact hrefused ⟨m, hm, hunder, hno⟩
    have hnodup := unmountTargets_nodup host (rowsUnder (Text.fsdecode root.bytes) table)
    obtain ⟨rest, heach⟩ := unmountEach_of_removes hremoves hnodup
    obtain ⟨-, hsub, hperm⟩ := unmountEach_ok heach hnodup
    have hrun : unmountTree host root table = .ok ((0, []), rest) := by
      obtain ⟨error, hrows⟩ := findmntUnder_of_answers hanswers (Text.fsdecode root.bytes)
      unfold unmountTree
      rw [hrows]
      show (do let (failures, table) ← unmountEach host _ table; _) = _
      rw [heach]
      rfl
    have hgone : ∀ m ∈ table, root.AtOrUnder m.target → m.target.bytes ∉ mounted rest := by
      intro m hm hunder hmem
      obtain ⟨m', hm', hbytes⟩ := List.mem_map.mp hmem
      exact hempty [] rest hrun m' hm' (target_eq_of_bytes hbytes ▸ hunder)
    have hone : (((unmountTargets host (rowsUnder (Text.fsdecode root.bytes) table)).filterMap
        Text.encode)).Nodup :=
      hnodup.filterMap fun a b raw ha hb => encode_inj ha hb
    refine hplain ⟨fun m hm hunder => ?_, fun m hm hunder => ?_⟩
    · by_contra hno
      refine hgone m hm hunder (hperm.mem_iff.mpr ?_)
      refine List.mem_diff_of_mem (List.mem_map_of_mem hm) fun hmem => ?_
      obtain ⟨t, -, ht⟩ := List.mem_filterMap.mp hmem
      exact hno ⟨t, ht⟩
    · have hzero := List.count_eq_zero.mpr (hgone m hm hunder)
      rw [hperm.count_eq, List.count_diff] at hzero
      have hle := List.nodup_iff_count_le_one.mp hone m.target.bytes
      have hpos : 0 < (mounted table).count m.target.bytes :=
        List.count_pos_iff.mpr (List.mem_map_of_mem hm)
      omega
  · rintro h messages rest hrun m hm hunder
    obtain ⟨hanswers, heach⟩ := unmountTree_zero hrun
    have hnodup := unmountTargets_nodup host (rowsUnder (Text.fsdecode root.bytes) table)
    obtain ⟨hall, hsub, hperm⟩ := unmountEach_ok heach hnodup
    rcases h with h | ⟨m', hm', hlisted, hno⟩ | hplain
    · exact h hanswers
    · exact hno (hall _ (mem_unmountTargets.mpr ⟨m', hm', hlisted, rfl⟩))
    · obtain ⟨t, ht⟩ := hplain.readable m (hsub m hm) hunder
      obtain ⟨hshown, hlisted⟩ := listed_of_encode hunder ht
      have htarget : m.target.bytes ∈ (unmountTargets host
          (rowsUnder (Text.fsdecode root.bytes) table)).filterMap Text.encode :=
        List.mem_filterMap.mpr
          ⟨t, mem_unmountTargets.mpr ⟨m, hsub m hm, hlisted, hshown⟩, ht⟩
      have hcount : 0 < (mounted rest).count m.target.bytes :=
        List.count_pos_iff.mpr (List.mem_map_of_mem hm)
      rw [hperm.count_eq, List.count_diff, hplain.single m (hsub m hm) hunder] at hcount
      have := List.count_pos_iff.mpr htarget
      omega

/-! ## A path mounted twice -/

/-- A host where every command does what it is asked to do. -/
def idleHost : Host where
  findmnt table := .ok ⟨0, listing table, []⟩
  findmnt_listing h _ := by cases h; rfl
  umount _ := .ok none
  setOrder := List.dedup
  setOrder_nodup := List.nodup_dedup
  mem_setOrder := List.mem_dedup

/-- `/a` -/
def stackedPath : MountPath := ⟨[47, 97], rfl, fun _ => by decide⟩

def stackedMount : Mount := ⟨stackedPath, [115], [101], [114, 119], [112]⟩

/-- The second mount at the path stays, and no failure is reported. -/
theorem stacked_mount_stays :
    ¬ (Emptied idleHost stackedPath [stackedMount, stackedMount] ∧
      ChildrenFirst idleHost stackedPath [stackedMount, stackedMount]) := by
  rintro ⟨h, -⟩
  have hrun : unmountTree idleHost stackedPath [stackedMount, stackedMount] =
      .ok ((0, []), [stackedMount]) := by
    decide +kernel
  exact h [] [stackedMount] hrun stackedMount List.mem_cons_self (.inl rfl)

end AgentRuntimeOps.Mounts
