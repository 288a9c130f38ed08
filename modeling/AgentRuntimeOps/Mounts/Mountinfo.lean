import Mathlib
import AgentRuntimeOps.Lib.Words

/-!
# The mount table of a process

`/proc/PID/mountinfo` has one line for each mount.  The kernel writes a blank, a tab, a line feed
and a backslash of a field as three octal digits, and every other character as it is.
`parseMountinfoLines` cuts the file where `str.splitlines` and `str.split` do, which is at more
characters than the kernel takes for separators.

`mountinfo_read_iff` says when what is read is what was written.
-/

namespace AgentRuntimeOps.Mounts.Mountinfo

open Lib Lib.Text

/-! ## Rendering -/

/-- The characters that the kernel writes as octal digits. -/
def isMangled (c : Nat) : Bool := c == 32 || c == 9 || c == 10 || c == 92

/-- A field, as the kernel writes it. -/
def mangle (field : Text) : Text := field.flatMap fun c =>
  if isMangled c then [92, 48 + c / 64, 48 + c / 8 % 8, 48 + c % 8] else [c]

/-- An absolute path, by the names in it. -/
structure AbsPath where
  names : List Text
  valid : ∀ name ∈ names, name ≠ [] ∧ 47 ∉ name
  deriving DecidableEq

/-- Each name with a slash in front. -/
def flat (names : List Text) : Text := names.flatMap (47 :: ·)

/-- The text of an absolute path. -/
def AbsPath.text (path : AbsPath) : Text := if path.names = [] then [47] else flat path.names

/-- `target` is the path or lies under it. -/
def AbsPath.Covers (path target : AbsPath) : Prop := path.names <+: target.names

instance (path target : AbsPath) : Decidable (path.Covers target) :=
  inferInstanceAs (Decidable (_ <+: _))

/-- An optional field. -/
inductive Tag where
  | shared (group : Nat)
  | master (group : Nat)
  | propagateFrom (group : Nat)
  | unbindable
  deriving DecidableEq, Repr

/-- The digits of a number. -/
def digits (n : Nat) : Text := Text.ofChars (Nat.toDigits 10 n)

/-- An optional field, as the kernel writes it. -/
def Tag.text : Tag → Text
  | shared group => Text.of "shared:" ++ digits group
  | master group => Text.of "master:" ++ digits group
  | propagateFrom group => Text.of "propagate_from:" ++ digits group
  | unbindable => Text.of "unbindable"

/-- A mount.  The options follow `ro` or `rw`, and a source that there is none of is `none`. -/
structure Mount where
  mountId : Nat
  parentId : Nat
  major : Nat
  minor : Nat
  root : Text
  target : AbsPath
  readOnly : Bool
  options : Text
  tags : List Tag
  fstype : Text
  source : Text
  superReadOnly : Bool
  superOptions : Text
  rootField : root ≠ [] ∧ root ≠ [45]
  fstypeField : fstype ≠ []
  sourceField : source ≠ []
  deriving DecidableEq

/-- The options of a mount, as they are written. -/
def accessText (readOnly : Bool) (options : Text) : Text :=
  Text.of (if readOnly then "ro" else "rw") ++ mangle options

/-- The fields in front of the separator. -/
def Mount.front (m : Mount) : List Text :=
  [digits m.mountId, digits m.parentId, digits m.major ++ 58 :: digits m.minor, mangle m.root,
    mangle m.target.text, accessText m.readOnly m.options] ++ m.tags.map Tag.text

/-- The separator and the fields behind it. -/
def Mount.back (m : Mount) : List Text :=
  [[45], mangle m.fstype, mangle m.source, accessText m.superReadOnly m.superOptions]

/-- The line of a mount. -/
def Mount.line (m : Mount) : Text := [32].intercalate (m.front ++ m.back) ++ [10]

/-- The file. -/
def rendered (mounts : List Mount) : Text := mounts.flatMap Mount.line

/-! ## Reading -/

/-- `[0-7]` -/
def isOctal (c : Nat) : Bool := 48 ≤ c && c ≤ 55

/-- `decode_mountinfo_field` -/
def decodeMountinfoField : Text → Text
  | 92 :: a :: b :: c :: rest =>
      if isOctal a && isOctal b && isOctal c then
        (64 * (a - 48) + 8 * (b - 48) + (c - 48)) :: decodeMountinfoField rest
      else 92 :: decodeMountinfoField (a :: b :: c :: rest)
  | c :: rest => c :: decodeMountinfoField rest
  | [] => []

/-- `mountinfo_propagation` -/
def mountinfoPropagation (optionalFields : List Text) : Text :=
  if optionalFields.any (Text.of "shared:").isPrefixOf then Text.of "shared"
  else if optionalFields.any (Text.of "master:").isPrefixOf then Text.of "slave"
  else if Text.of "unbindable" ∈ optionalFields then Text.of "unbindable"
  else Text.of "private"

/-- A row of the result. -/
structure Row where
  target : Text
  source : Text
  fstype : Text
  options : Text
  propagation : Text
  deriving DecidableEq, Repr

/-- `SOURCE[/root]`, as `findmnt` writes it. -/
def withRoot (source fsRoot : Text) : Text :=
  if fsRoot = [47] then source else source ++ 91 :: fsRoot ++ [93]

/-- The row of the fields in front of the separator and behind it. -/
def rowOf (root : Text) : (front back : List Text) → Option Row
  | _ :: _ :: _ :: fsRoot :: target :: options :: optional,
      _ :: fstype :: source :: superOptions :: _ =>
    let target := decodeMountinfoField target
    if target ≠ root ∧ ¬(root ++ [47]).isPrefixOf target then none
    else some {
      target := target
      source := withRoot (decodeMountinfoField source) (decodeMountinfoField fsRoot)
      fstype := fstype
      options := options ++ 44 :: superOptions
      propagation := mountinfoPropagation optional }
  | _, _ => none

/-- The body of the loop of `parse_mountinfo_lines`. -/
def parseLine (root line : Text) : Option Row :=
  rowOf root (line.words.takeWhile (· ≠ [45])) (line.words.dropWhile (· ≠ [45]))

/-- `path.rstrip("/") or "/"` -/
def rootOf (path : Text) : Text :=
  let root := path.rdropWhile (· == 47)
  if root = [] then [47] else root

/-- `parse_mountinfo_lines` -/
def parseMountinfoLines (lines : List Text) (path : Text) : List Row :=
  lines.filterMap (parseLine (rootOf path))

/-- `mountinfo_under`: the code, the error and the rows; `none` where reading raises
`UnicodeDecodeError`. -/
def mountinfoUnder (file : Except Text (List UInt8)) (path : Text) :
    Option (Nat × Text × List Row) :=
  match file with
  | .error message => some (1, message, [])
  | .ok raw => (Text.decode raw).map fun text => (0, [], parseMountinfoLines text.splitlines path)

/-! ## What should be read -/

/-- The propagation of a mount. -/
def Mount.propagation (m : Mount) : Text :=
  if m.tags.any fun tag => tag matches .shared _ then Text.of "shared"
  else if m.tags.any fun tag => tag matches .master _ then Text.of "slave"
  else if .unbindable ∈ m.tags then Text.of "unbindable"
  else Text.of "private"

/-- The row of a mount. -/
def Mount.row (m : Mount) : Row where
  target := m.target.text
  source := withRoot m.source m.root
  fstype := mangle m.fstype
  options := accessText m.readOnly m.options ++ 44 :: accessText m.superReadOnly m.superOptions
  propagation := m.propagation

/-- The rows of the mounts at the path and under it. -/
def rowsUnder (mounts : List Mount) (path : AbsPath) : List Row :=
  (mounts.filter fun m => path.Covers m.target).map Mount.row

/-! ## Paths -/

variable {names names' : List Text} {path target : AbsPath}

/-- A name ends where a slash follows. -/
lemma takeWhile_name {name rest : Text} (hname : 47 ∉ name) (hrest : ∀ c ∈ rest.head?, c = 47) :
    (name ++ rest).takeWhile (· ≠ 47) = name := by
  rw [List.takeWhile_append_of_pos fun c hc => decide_eq_true (ne_of_mem_of_not_mem hc hname)]
  cases rest with
  | nil => rw [List.takeWhile_nil, List.append_nil]
  | cons c rest =>
      rw [List.takeWhile_cons_of_neg (by simp [hrest c rfl]), List.append_nil]

lemma head_flat (c : Nat) (h : c ∈ (flat names).head?) : c = 47 := by
  cases names with
  | nil => cases h
  | cons name names => exact (Option.some.inj h).symm

/-- Names that are the same up to the next slash are the same. -/
lemma append_flat_inj {name name' rest rest' : Text} (hname : 47 ∉ name) (hname' : 47 ∉ name')
    (hrest : ∀ c ∈ rest.head?, c = 47) (hrest' : ∀ c ∈ rest'.head?, c = 47)
    (h : name ++ rest = name' ++ rest') : name = name' ∧ rest = rest' := by
  have hsame : name = name' := by
    rw [← takeWhile_name hname hrest, h, takeWhile_name hname' hrest']
  exact ⟨hsame, List.append_cancel_left (hsame ▸ h)⟩

lemma flat_cons (name : Text) (names : List Text) :
    flat (name :: names) = 47 :: (name ++ flat names) := List.flatMap_cons

lemma flat_cover_iff (hnames : ∀ name ∈ names, name ≠ [] ∧ 47 ∉ name)
    (hnames' : ∀ name ∈ names', name ≠ [] ∧ 47 ∉ name) :
    (flat names' = flat names ∨ flat names ++ [47] <+: flat names') ↔ names <+: names' := by
  induction names generalizing names' with
  | nil =>
      refine iff_of_true ?_ List.nil_prefix
      cases names' with
      | nil => exact .inl rfl
      | cons name names' => exact .inr ⟨_, rfl⟩
  | cons name names ih =>
      obtain ⟨⟨-, hname⟩, hrest⟩ := List.forall_mem_cons.mp hnames
      cases names' with
      | nil =>
          refine iff_of_false ?_ (by simp)
          rintro (h | h)
          · cases h
          · exact absurd (List.prefix_nil.mp h) (by simp)
      | cons name' names' =>
          obtain ⟨⟨-, hname'⟩, hrest'⟩ := List.forall_mem_cons.mp hnames'
          rw [List.cons_prefix_cons, ← ih hrest hrest', flat_cons, flat_cons]
          have hslash : ∀ more, ∀ c ∈ (flat names ++ 47 :: more).head?, c = 47 := by
            intro more c hc
            cases names with
            | nil => exact (Option.some.inj hc).symm
            | cons first names => exact (Option.some.inj hc).symm
          constructor
          · rintro (h | ⟨more, h⟩)
            · obtain ⟨hsame, hflat⟩ :=
                append_flat_inj hname' hname head_flat head_flat (List.cons.inj h).2
              exact ⟨hsame.symm, .inl hflat⟩
            · rw [List.append_assoc, List.cons_append, List.append_assoc,
                List.singleton_append] at h
              obtain ⟨hsame, hflat⟩ :=
                append_flat_inj hname hname' (hslash more) head_flat (List.cons.inj h).2
              exact ⟨hsame, .inr ⟨more, by rw [← hflat, List.append_assoc]; rfl⟩⟩
          · rintro ⟨rfl, h | ⟨more, h⟩⟩
            · exact .inl (by rw [h])
            · refine .inr ⟨more, ?_⟩
              rw [← h]
              simp only [List.cons_append, List.append_assoc]

/-- A text of names does not end with a slash. -/
lemma flat_eq_concat (hnames : ∀ name ∈ names, name ≠ [] ∧ 47 ∉ name) (hne : names ≠ []) :
    ∃ front c, flat names = front ++ [c] ∧ c ≠ 47 := by
  obtain ⟨before, name, rfl⟩ := List.eq_nil_or_concat' names |>.resolve_left hne
  obtain ⟨hname, hslash⟩ := hnames name (by simp)
  obtain ⟨front, c, rfl⟩ := List.eq_nil_or_concat' name |>.resolve_left hname
  refine ⟨flat before ++ 47 :: front, c, ?_, ?_⟩
  · simp [flat]
  · rintro rfl
    exact hslash (by simp)

/-- The root that is compared with, whatever slashes follow the path. -/
lemma rootOf_text (path : AbsPath) (slashes : Nat) :
    rootOf (path.text ++ List.replicate slashes 47) = path.text := by
  have hdrop : (path.text ++ List.replicate slashes 47).rdropWhile (· == 47) =
      (path.text.reverse.dropWhile (· == 47)).reverse := by
    unfold List.rdropWhile
    rw [List.reverse_append, List.reverse_replicate, List.dropWhile_append_of_pos]
    exact fun c hc => by rw [List.eq_of_mem_replicate hc]; rfl
  unfold rootOf
  rw [hdrop]
  by_cases hroot : path.names = []
  · rw [AbsPath.text, if_pos hroot]
    rfl
  · obtain ⟨front, c, hflat, hc⟩ := flat_eq_concat path.valid hroot
    rw [AbsPath.text, if_neg hroot, hflat, List.reverse_append, List.reverse_singleton,
      List.singleton_append, List.dropWhile_cons_of_neg (by simpa using hc), List.reverse_cons,
      List.reverse_reverse]
    exact if_neg (by simp)

/-- A target is taken for the path or below it: what the comparison of texts says of names. -/
lemma under_iff (path target : AbsPath) :
    (target.text = path.text ∨ path.text ++ [47] <+: target.text) ↔
      path.Covers target ∧ (path.names = [] → target.names = []) := by
  unfold AbsPath.text AbsPath.Covers
  by_cases hroot : path.names = []
  · rw [if_pos hroot, hroot]
    by_cases htarget : target.names = []
    · rw [if_pos htarget, htarget]
      simp
    · obtain ⟨name, names, hnames⟩ := List.exists_cons_of_ne_nil htarget
      obtain ⟨hne, hslash⟩ := target.valid name (by rw [hnames]; exact List.mem_cons_self)
      obtain ⟨c, name, rfl⟩ := List.exists_cons_of_ne_nil hne
      rw [if_neg htarget, hnames, flat_cons]
      refine iff_of_false ?_ fun h => absurd (h.2 rfl) (List.cons_ne_nil _ _)
      rintro (h | ⟨more, h⟩)
      · cases h
      · have hc : 47 = c := (List.cons.inj (List.cons.inj h).2).1
        exact hslash (hc ▸ List.mem_cons_self)
  · rw [if_neg hroot, ← flat_cover_iff path.valid target.valid]
    by_cases htarget : target.names = []
    · obtain ⟨name, names, hnames⟩ := List.exists_cons_of_ne_nil hroot
      obtain ⟨hne, -⟩ := path.valid name (by rw [hnames]; exact List.mem_cons_self)
      obtain ⟨c, name, rfl⟩ := List.exists_cons_of_ne_nil hne
      rw [if_pos htarget, htarget, hnames, flat_cons]
      refine iff_of_false ?_ ?_
      · rintro (h | ⟨more, h⟩)
        · cases h
        · cases h
      · rintro ⟨h | ⟨more, h⟩, -⟩
        · cases h
        · cases h
    · rw [if_neg htarget]
      exact ⟨fun h => ⟨h, fun hnone => absurd hnone hroot⟩, fun h => h.1⟩

/-! ## Fields -/

/-- The octal digits of a character that is mangled. -/
def octal (c : Nat) : Text := [92, 48 + c / 64, 48 + c / 8 % 8, 48 + c % 8]

lemma mangle_cons (c : Nat) (field : Text) :
    mangle (c :: field) = (if isMangled c then octal c else [c]) ++ mangle field :=
  List.flatMap_cons

lemma decode_octal {c : Nat} (h : isMangled c = true) (rest : Text) :
    decodeMountinfoField (octal c ++ rest) = c :: decodeMountinfoField rest := by
  simp only [isMangled, Bool.or_eq_true, beq_iff_eq] at h
  rcases h with ((rfl | rfl) | rfl) | rfl <;> rfl

lemma decode_cons {c : Nat} (h : c ≠ 92) (rest : Text) :
    decodeMountinfoField (c :: rest) = c :: decodeMountinfoField rest := by
  rw [decodeMountinfoField]
  rintro a b c' rest' rfl
  exact absurd rfl h

/-- A field is read back. -/
lemma decode_mangle (field : Text) : decodeMountinfoField (mangle field) = field := by
  induction field with
  | nil => rfl
  | cons c field ih =>
      rw [mangle_cons]
      by_cases hc : isMangled c = true
      · rw [if_pos hc, decode_octal hc, ih]
      · rw [if_neg hc, List.singleton_append, decode_cons ?_, ih]
        rintro rfl
        exact hc rfl

/-- No blanks but those that the kernel writes as octal digits. -/
def Narrow (field : Text) : Prop := ∀ c ∈ field, isSpace c = true → isMangled c = true

instance (field : Text) : Decidable (Narrow field) :=
  inferInstanceAs (Decidable (∀ c ∈ field, _))

/-- The characters of a mangled field. -/
lemma mem_mangle {field : Text} {d : Nat} (h : d ∈ mangle field) :
    (d ∈ field ∧ isMangled d = false) ∨ isSpace d = false := by
  obtain ⟨c, hc, hd⟩ := List.mem_flatMap.mp h
  split at hd
  case isTrue hmangled =>
    right
    simp only [isMangled, Bool.or_eq_true, beq_iff_eq] at hmangled
    simp only [List.mem_cons, List.not_mem_nil, or_false] at hd
    rcases hmangled with ((rfl | rfl) | rfl) | rfl <;> rcases hd with rfl | rfl | rfl | rfl <;> rfl
  case isFalse hplain =>
    obtain rfl := List.mem_singleton.mp hd
    exact .inl ⟨hc, Bool.eq_false_iff.mpr hplain⟩

/-- A field without wider blanks is written without blanks. -/
lemma isSpace_mangle {field : Text} (h : Narrow field) : ∀ c ∈ mangle field, isSpace c = false := by
  intro c hc
  rcases mem_mangle hc with ⟨hmem, hplain⟩ | hspace
  · refine Bool.eq_false_iff.mpr fun hspace => ?_
    rw [h c hmem hspace] at hplain
    cases hplain
  · exact hspace

lemma mangle_ne_nil {field : Text} (h : field ≠ []) : mangle field ≠ [] := by
  obtain ⟨c, field, rfl⟩ := List.exists_cons_of_ne_nil h
  rw [mangle_cons]
  split <;> exact List.cons_ne_nil _ _

/-- A wider blank is written as it is. -/
lemma mem_mangle_of_wide {field : Text} {c : Nat} (h : c ∈ field) (hwide : isMangled c = false) :
    c ∈ mangle field := by
  refine List.mem_flatMap.mpr ⟨c, h, ?_⟩
  rw [if_neg (by simp [hwide])]
  exact List.mem_singleton_self c

/-! ## Texts with backslashes in escapes only -/

/-- A backslash starts one of the four escapes. -/
inductive Escaped : Text → Prop where
  | nil : Escaped []
  | cons {c : Nat} {t : Text} (hc : c ≠ 92) (h : Escaped t) : Escaped (c :: t)
  | escape {c : Nat} {t : Text} (hc : isMangled c = true) (h : Escaped t) : Escaped (octal c ++ t)

lemma Escaped.append {s t : Text} (hs : Escaped s) (ht : Escaped t) : Escaped (s ++ t) := by
  induction hs with
  | nil => exact ht
  | cons hc h ih => exact .cons hc ih
  | escape hc h ih =>
      rw [List.append_assoc]
      exact .escape hc ih

lemma Escaped.of_notMem {t : Text} (h : 92 ∉ t) : Escaped t := by
  induction t with
  | nil => exact .nil
  | cons c t ih =>
      rw [List.mem_cons, not_or] at h
      exact .cons (Ne.symm h.1) (ih h.2)

lemma escaped_mangle (field : Text) : Escaped (mangle field) := by
  induction field with
  | nil => exact .nil
  | cons c field ih =>
      rw [mangle_cons]
      split
      case isTrue hc => exact .escape hc ih
      case isFalse hc =>
        refine .cons ?_ ih
        rintro rfl
        exact hc rfl

/-- The characters of an escape are no blanks. -/
lemma isSpace_octal {c : Nat} (h : isMangled c = true) : ∀ d ∈ octal c, isSpace d = false := by
  simp only [isMangled, Bool.or_eq_true, beq_iff_eq] at h
  rcases h with ((rfl | rfl) | rfl) | rfl <;> decide

/-- A text is cut outside of its escapes. -/
lemma Escaped.cut {s t u : Text} {c : Nat} (hc : isSpace c = true) (h : Escaped u)
    (hu : u = s ++ c :: t) : Escaped s ∧ Escaped t := by
  induction h generalizing s with
  | nil => exact absurd hu (by simp)
  | @cons d rest hd h ih =>
      cases s with
      | nil =>
          obtain ⟨rfl, rfl⟩ := List.cons.inj hu
          exact ⟨.nil, h⟩
      | cons e s =>
          obtain ⟨rfl, hrest⟩ := List.cons.inj hu
          obtain ⟨hs, ht⟩ := ih hrest
          exact ⟨.cons hd hs, ht⟩
  | @escape d rest hd h ih =>
      rcases List.append_eq_append_iff.mp hu with ⟨s', hs, hrest⟩ | ⟨more, hescape, hmore⟩
      · obtain ⟨hs', ht⟩ := ih hrest
        rw [hs]
        exact ⟨.escape hd hs', ht⟩
      · cases more with
        | nil =>
            rw [List.append_nil] at hescape
            obtain ⟨hs', ht⟩ := ih (s := []) hmore.symm
            rw [← hescape, ← List.append_nil (octal d)]
            exact ⟨.escape hd .nil, ht⟩
        | cons e more =>
            obtain ⟨rfl, -⟩ := List.cons.inj hmore
            have hspace := isSpace_octal hd c (by rw [hescape]; simp)
            rw [hc] at hspace
            cases hspace

/-- Joining the returns changes no escape. -/
lemma Escaped.joinReturns {t : Text} (h : Escaped t) : Escaped t.joinReturns := by
  induction h with
  | nil => exact .nil
  | @cons c t hc h ih =>
      by_cases hreturn : c = 13 ∧ t.head? = some 10
      · obtain ⟨rfl, hhead⟩ := hreturn
        obtain ⟨rest, rfl⟩ := List.head?_eq_some_iff.mp hhead
        rw [joinReturns_cons (.inl (by decide))] at ih
        exact ih
      · rw [joinReturns_cons (by rwa [not_and_or] at hreturn)]
        exact .cons hc ih
  | @escape c t hc h ih =>
      have hjoin : (octal c ++ t).joinReturns = octal c ++ t.joinReturns := by
        rw [joinReturns_append, joinReturns_of_notMem]
        · intro hmem
          have hspace := isSpace_octal hc 13 hmem
          cases hspace
        · refine .inl fun hlast => ?_
          have hspace := isSpace_octal hc 13 (List.mem_of_getLast? hlast)
          cases hspace
      rw [hjoin]
      exact .escape hc ih

/-- What is decoded is written in the text, or mangled. -/
lemma Escaped.mem_decode {t : Text} (h : Escaped t) :
    ∀ c ∈ decodeMountinfoField t, c ∈ t ∨ isMangled c = true := by
  induction h with
  | nil => exact fun c hc => absurd hc List.not_mem_nil
  | cons hc h ih =>
      rw [decode_cons hc, List.forall_mem_cons]
      refine ⟨.inl List.mem_cons_self, fun d hd => ?_⟩
      exact (ih d hd).imp_left (List.mem_cons_of_mem _)
  | escape hc h ih =>
      rw [decode_octal hc, List.forall_mem_cons]
      refine ⟨.inr hc, fun d hd => ?_⟩
      exact (ih d hd).imp_left (List.mem_append_right _)

/-- The lines of a text with escapes, and their words, have escapes only. -/
lemma Escaped.of_mem_words {t line w : Text} (h : Escaped t) (hline : line ∈ t.splitlines)
    (hw : w ∈ line.words) : Escaped w := by
  have hpiece : line ∈ t.joinReturns.splitOnP isLineBreak := by
    unfold splitlines at hline
    dsimp only at hline
    split at hline
    · exact List.mem_of_mem_dropLast hline
    · exact hline
  have hescaped : Escaped line := forall_of_mem_splitOnP
    (fun s c t hc h => h.cut (isSpace_of_isLineBreak hc) rfl) h.joinReturns line hpiece
  exact forall_of_mem_splitOnP (fun s c t hc h => h.cut hc rfl) hescaped w
    (List.mem_filter.mp hw).1

/-- A decoded word has no wider blanks. -/
lemma narrow_decode {w : Text} (hw : IsWord w) (h : Escaped w) :
    Narrow (decodeMountinfoField w) := by
  intro c hc hspace
  rcases h.mem_decode c hc with hmem | hmangled
  · rw [hw.plain c hmem] at hspace
    cases hspace
  · exact hmangled

/-- A row without wider blanks. -/
structure Row.Narrow (row : Row) : Prop where
  target : Mountinfo.Narrow row.target
  source : Mountinfo.Narrow row.source
  fstype : Mountinfo.Narrow row.fstype
  options : Mountinfo.Narrow row.options

lemma narrow_of_plain {field : Text} (h : ∀ c ∈ field, isSpace c = false) : Narrow field := by
  intro c hc hspace
  rw [h c hc] at hspace
  cases hspace

lemma Narrow.append {s t : Text} (hs : Narrow s) (ht : Narrow t) : Narrow (s ++ t) :=
  fun c hc => (List.mem_append.mp hc).elim (hs c) (ht c)

lemma Narrow.cons {c : Nat} {t : Text} (hc : isSpace c = false) (ht : Narrow t) :
    Narrow (c :: t) :=
  (narrow_of_plain (List.forall_mem_singleton.mpr hc)).append ht

lemma Narrow.withRoot {source fsRoot : Text} (hsource : Narrow source) (hroot : Narrow fsRoot) :
    Narrow (withRoot source fsRoot) := by
  unfold Mountinfo.withRoot
  split
  · exact hsource
  · exact (hsource.append (Narrow.cons (by decide) hroot)).append (narrow_of_plain (by decide))

/-- What is read of a text with escapes only has no wider blanks. -/
lemma narrow_of_parseLine {t line root : Text} {row : Row} (h : Escaped t)
    (hline : line ∈ t.splitlines) (hrow : parseLine root line = some row) : row.Narrow := by
  have hwords : ∀ w ∈ line.words, IsWord w ∧ Escaped w := fun w hw =>
    ⟨isWord_of_mem_words hw, h.of_mem_words hline hw⟩
  have hfront : ∀ w ∈ line.words.takeWhile (· ≠ [45]), IsWord w ∧ Escaped w :=
    fun w hw => hwords w ((List.takeWhile_sublist _).mem hw)
  have hback : ∀ w ∈ line.words.dropWhile (· ≠ [45]), IsWord w ∧ Escaped w :=
    fun w hw => hwords w ((List.dropWhile_sublist _).mem hw)
  unfold parseLine at hrow
  unfold rowOf at hrow
  split at hrow
  case h_1 id parent device fsRoot target options optional dash fstype source superOptions more
      hf hb =>
    rw [hf] at hfront
    rw [hb] at hback
    dsimp only at hrow
    split_ifs at hrow with hunder
    cases hrow
    obtain ⟨hfsRoot, hfsRoot'⟩ := hfront fsRoot (by simp)
    obtain ⟨htarget, htarget'⟩ := hfront target (by simp)
    obtain ⟨hsource, hsource'⟩ := hback source (by simp)
    have hoptions := (hfront options (by simp)).1
    have hsuper := (hback superOptions (by simp)).1
    exact {
      target := narrow_decode htarget htarget'
      source := (narrow_decode hsource hsource').withRoot (narrow_decode hfsRoot hfsRoot')
      fstype := narrow_of_plain (hback fstype (by simp)).1.plain
      options := (narrow_of_plain hoptions.plain).append
        (Narrow.cons (by decide) (narrow_of_plain hsuper.plain)) }
  case h_2 => cases hrow

/-! ## The line of a mount -/

/-- No field of the mount has a wider blank. -/
structure Mount.Plain (m : Mount) : Prop where
  root : Narrow m.root
  target : Narrow m.target.text
  options : Narrow m.options
  fstype : Narrow m.fstype
  source : Narrow m.source
  superOptions : Narrow m.superOptions

lemma mem_digits {n c : Nat} (h : c ∈ digits n) : 48 ≤ c ∧ c ≤ 57 := by
  obtain ⟨d, hd, rfl⟩ := List.mem_map.mp h
  have hdigit := Nat.isDigit_of_mem_toDigits (by decide) (by decide) hd
  rw [Char.isDigit, Bool.and_eq_true, decide_eq_true_eq, decide_eq_true_eq] at hdigit
  exact ⟨UInt32.le_iff_toNat_le.mp hdigit.1, UInt32.le_iff_toNat_le.mp hdigit.2⟩

lemma isSpace_of_digit {c : Nat} (h : 48 ≤ c ∧ c ≤ 57) : isSpace c = false := by
  simp only [isSpace, Bool.or_eq_false_iff, Bool.and_eq_false_iff, decide_eq_false_iff_not,
    beq_eq_false_iff_ne]
  omega

lemma isWord_digits (n : Nat) : IsWord (digits n) :=
  ⟨fun h => absurd (List.map_eq_nil_iff.mp h) Nat.toDigits_ne_nil,
    fun _ hc => isSpace_of_digit (mem_digits hc)⟩

/-- Numbers with a text before them are words. -/
lemma isWord_append_digits {s : Text} (hs : ∀ c ∈ s, isSpace c = false) (n : Nat) :
    IsWord (s ++ digits n) where
  ne_nil h := (isWord_digits n).ne_nil (List.append_eq_nil_iff.mp h).2
  plain := List.forall_mem_append.mpr ⟨hs, (isWord_digits n).plain⟩

lemma isWord_tag (tag : Tag) : IsWord tag.text := by
  cases tag with
  | shared group => exact isWord_append_digits (by decide) group
  | master group => exact isWord_append_digits (by decide) group
  | propagateFrom group => exact isWord_append_digits (by decide) group
  | unbindable => exact ⟨by decide, by decide⟩

lemma isWord_mangle {field : Text} (hne : field ≠ []) (h : Narrow field) : IsWord (mangle field) :=
  ⟨mangle_ne_nil hne, isSpace_mangle h⟩

lemma isWord_accessText (readOnly : Bool) {options : Text} (h : Narrow options) :
    IsWord (accessText readOnly options) := by
  refine ⟨?_, List.forall_mem_append.mpr ⟨?_, isSpace_mangle h⟩⟩
  · cases readOnly <;> exact fun h => nomatch List.append_eq_nil_iff.mp h
  · cases readOnly <;> decide

lemma escaped_accessText (readOnly : Bool) (options : Text) :
    Escaped (accessText readOnly options) := by
  refine .append (.of_notMem ?_) (escaped_mangle options)
  cases readOnly <;> decide

lemma text_ne_nil (path : AbsPath) : path.text ≠ [] := by
  unfold AbsPath.text
  split
  · exact List.cons_ne_nil _ _
  · next h =>
    obtain ⟨name, names, hnames⟩ := List.exists_cons_of_ne_nil h
    rw [hnames]
    exact List.cons_ne_nil _ _

lemma isWord_device (major minor : Nat) : IsWord (digits major ++ 58 :: digits minor) := by
  rw [List.append_cons]
  exact isWord_append_digits
    (List.forall_mem_append.mpr ⟨(isWord_digits major).plain, by decide⟩) minor

/-- The words in front of the separator and behind it. -/
lemma Mount.Plain.isWord {m : Mount} (h : m.Plain) : ∀ w ∈ m.front ++ m.back, IsWord w := by
  unfold Mount.front Mount.back
  simp only [List.forall_mem_append, List.forall_mem_cons, List.forall_mem_map]
  refine ⟨⟨⟨isWord_digits _, isWord_digits _, isWord_device _ _, isWord_mangle m.rootField.1 h.root,
    isWord_mangle (text_ne_nil _) h.target, isWord_accessText _ h.options, nofun⟩,
    fun tag _ => isWord_tag tag⟩, ⟨by decide, by decide⟩, isWord_mangle m.fstypeField h.fstype,
    isWord_mangle m.sourceField h.source, isWord_accessText _ h.superOptions, nofun⟩

/-- A word with another character is no separator. -/
lemma ne_separator_of_mem {w : Text} {c : Nat} (hc : c ∈ w) (hne : c ≠ 45) : w ≠ [45] := by
  rintro rfl
  exact hne (List.mem_singleton.mp hc)

lemma digits_ne_separator (n : Nat) : digits n ≠ [45] := by
  obtain ⟨c, hc⟩ := List.exists_mem_of_ne_nil _ (isWord_digits n).ne_nil
  have hdigit := mem_digits hc
  exact ne_separator_of_mem hc (by omega)

lemma mangle_ne_separator {field : Text} (h : field ≠ [45]) : mangle field ≠ [45] := by
  intro heq
  have hdecode := decode_mangle field
  rw [heq] at hdecode
  exact h hdecode.symm

lemma text_ne_separator (path : AbsPath) : path.text ≠ [45] := by
  unfold AbsPath.text
  split
  · decide
  · next h =>
    obtain ⟨name, names, hnames⟩ := List.exists_cons_of_ne_nil h
    rw [hnames, flat_cons]
    exact ne_separator_of_mem List.mem_cons_self (by decide)

lemma tag_ne_separator (tag : Tag) : tag.text ≠ [45] := by
  cases tag with
  | shared group => exact @ne_separator_of_mem _ 58 (List.mem_append_left _ (by decide)) (by decide)
  | master group => exact @ne_separator_of_mem _ 58 (List.mem_append_left _ (by decide)) (by decide)
  | propagateFrom group =>
      exact @ne_separator_of_mem _ 58 (List.mem_append_left _ (by decide)) (by decide)
  | unbindable => decide

lemma accessText_ne_separator (readOnly : Bool) (options : Text) :
    accessText readOnly options ≠ [45] := by
  refine @ne_separator_of_mem _ 114 (List.mem_append_left _ ?_) (by decide)
  cases readOnly <;> decide

/-- No word in front of the separator is one. -/
lemma Mount.ne_separator (m : Mount) : ∀ w ∈ m.front, w ≠ [45] := by
  unfold Mount.front
  simp only [List.forall_mem_append, List.forall_mem_cons, List.forall_mem_map]
  exact ⟨⟨digits_ne_separator _, digits_ne_separator _,
    @ne_separator_of_mem _ 58 (List.mem_append_right _ List.mem_cons_self) (by decide),
    mangle_ne_separator m.rootField.2, mangle_ne_separator (text_ne_separator _),
    accessText_ne_separator _ _, nofun⟩, fun tag _ => tag_ne_separator tag⟩

lemma Escaped.digits (n : Nat) : Escaped (digits n) :=
  .of_notMem fun h => absurd (mem_digits h) (by decide)

lemma Escaped.tag (tag : Tag) : Escaped tag.text := by
  cases tag with
  | shared group => exact .append (.of_notMem (by decide)) (.digits group)
  | master group => exact .append (.of_notMem (by decide)) (.digits group)
  | propagateFrom group => exact .append (.of_notMem (by decide)) (.digits group)
  | unbindable => exact .of_notMem (by decide)

/-- Words with escapes only, with single blanks between them. -/
lemma Escaped.intercalate {ws : List Text} (h : ∀ w ∈ ws, Escaped w) :
    Escaped ([32].intercalate ws) := by
  induction ws with
  | nil => exact .nil
  | cons w ws ih =>
      obtain ⟨hw, hws⟩ := List.forall_mem_cons.mp h
      cases ws with
      | nil =>
          rw [List.intercalate_singleton]
          exact hw
      | cons next ws =>
          rw [List.intercalate_cons_cons, List.append_assoc]
          exact hw.append (.cons (by decide) (ih hws))

/-- The line of a mount has its backslashes in escapes only. -/
lemma Mount.escaped (m : Mount) : Escaped m.line := by
  refine .append (.intercalate ?_) (.of_notMem (by decide))
  unfold Mount.front Mount.back
  simp only [List.forall_mem_append, List.forall_mem_cons, List.forall_mem_map]
  exact ⟨⟨⟨.digits _, .digits _, .append (.digits _) (.cons (by decide) (.digits _)),
    escaped_mangle _, escaped_mangle _, escaped_accessText _ _, nofun⟩, fun tag _ => .tag tag⟩,
    .of_notMem (by decide), escaped_mangle _, escaped_mangle _, escaped_accessText _ _, nofun⟩

/-! ## What is read of a line -/

/-- The propagation is read back from the optional fields. -/
lemma mountinfoPropagation_tags (m : Mount) :
    mountinfoPropagation (m.tags.map Tag.text) = m.propagation := by
  have hshared : ∀ tag : Tag, (Text.of "shared:").isPrefixOf tag.text =
      (tag matches .shared _) := by
    intro tag
    cases tag with
    | shared group => rfl
    | master group => rfl
    | propagateFrom group => rfl
    | unbindable => rfl
  have hmaster : ∀ tag : Tag, (Text.of "master:").isPrefixOf tag.text =
      (tag matches .master _) := by
    intro tag
    cases tag with
    | shared group => rfl
    | master group => rfl
    | propagateFrom group => rfl
    | unbindable => rfl
  have hunbindable : Text.of "unbindable" ∈ m.tags.map Tag.text ↔ .unbindable ∈ m.tags := by
    rw [List.mem_map]
    constructor
    · rintro ⟨tag, htag, htext⟩
      cases tag with
      | shared group => cases htext
      | master group => cases htext
      | propagateFrom group => cases htext
      | unbindable => exact htag
    · exact fun h => ⟨.unbindable, h, rfl⟩
  unfold mountinfoPropagation Mount.propagation
  rw [List.any_map, List.any_map, if_congr hunbindable rfl rfl]
  congr 1
  · simp only [Function.comp_def, hshared]
  · congr 1
    simp only [Function.comp_def, hmaster]

/-- The words of a mount are read as its row, where its target is taken for the path or below it. -/
lemma rowOf_mount (m : Mount) (path : AbsPath) :
    rowOf path.text m.front m.back =
      if path.Covers m.target ∧ (path.names = [] → m.target.names = []) then some m.row
      else none := by
  have hunder : (decodeMountinfoField (mangle m.target.text) ≠ path.text ∧
      ¬(path.text ++ [47]).isPrefixOf (decodeMountinfoField (mangle m.target.text)) = true) ↔
      ¬(path.Covers m.target ∧ (path.names = [] → m.target.names = [])) := by
    rw [decode_mangle, List.isPrefixOf_iff_prefix, ← under_iff, not_or]
  have hrow : (⟨decodeMountinfoField (mangle m.target.text),
      withRoot (decodeMountinfoField (mangle m.source)) (decodeMountinfoField (mangle m.root)),
      mangle m.fstype,
      accessText m.readOnly m.options ++ 44 :: accessText m.superReadOnly m.superOptions,
      mountinfoPropagation (m.tags.map Tag.text)⟩ : Row) = m.row := by
    rw [decode_mangle, decode_mangle, decode_mangle, mountinfoPropagation_tags]
    rfl
  rw [← ite_not, ← if_congr hunder rfl rfl, ← hrow]
  rfl

/-- The words are parted at the first separator. -/
lemma takeWhile_separator {front : List Text} (h : [45] ∉ front) (back : List Text) :
    (front ++ [45] :: back).takeWhile (· ≠ [45]) = front ∧
      (front ++ [45] :: back).dropWhile (· ≠ [45]) = [45] :: back := by
  have hfront : ∀ w ∈ front, decide (w ≠ [45]) = true :=
    fun w hw => decide_eq_true (ne_of_mem_of_not_mem hw h)
  rw [List.takeWhile_append_of_pos hfront, List.dropWhile_append_of_pos hfront,
    List.takeWhile_cons_of_neg (by decide), List.dropWhile_cons_of_neg (by decide),
    List.append_nil]
  exact ⟨rfl, rfl⟩

/-- The body of a line. -/
def Mount.body (m : Mount) : Text := [32].intercalate (m.front ++ m.back)

/-- The line of a mount without wider blanks is one line, and read as what it is. -/
lemma parseLine_of_plain {m : Mount} (h : m.Plain) (path : AbsPath) :
    m.line.splitlines.filterMap (parseLine path.text) =
      if path.Covers m.target ∧ (path.names = [] → m.target.names = []) then [m.row] else [] := by
  have hplain : ∀ c ∈ m.body, isLineBreak c = false := by
    intro c hc
    rcases mem_intercalate hc with rfl | ⟨w, hw, hmem⟩
    · decide
    · refine Bool.eq_false_iff.mpr fun hbreak => ?_
      have hspace := isSpace_of_isLineBreak hbreak
      rw [(h.isWord w hw).plain c hmem] at hspace
      cases hspace
  have hreturn : 13 ∉ m.body := fun hmem => by
    have hbreak := hplain 13 hmem
    cases hbreak
  have hlines : m.line.splitlines = [m.body] := by
    rw [show m.line = m.body ++ 10 :: [] from rfl, splitlines_append hreturn List.not_mem_nil,
      List.splitOnP_eq_singleton hplain, splitlines_nil, List.append_nil]
  have hwords : m.body.words = m.front ++ m.back := words_intercalate h.isWord
  obtain ⟨htake, hdrop⟩ : (m.front ++ m.back).takeWhile (· ≠ [45]) = m.front ∧
      (m.front ++ m.back).dropWhile (· ≠ [45]) = m.back :=
    takeWhile_separator (fun hmem => m.ne_separator _ hmem rfl) _
  have hparse : parseLine path.text m.body = rowOf path.text m.front m.back := by
    unfold parseLine
    rw [hwords, htake, hdrop]
  rw [hlines, List.filterMap_cons, hparse, rowOf_mount]
  split_ifs with hunder
  · rfl
  · rfl

/-! ## What is read of the file -/

/-- The lines of the file are those of the mounts. -/
lemma splitlines_rendered (mounts : List Mount) :
    (rendered mounts).splitlines = mounts.flatMap fun m => m.line.splitlines := by
  induction mounts with
  | nil => rfl
  | cons m mounts ih =>
      have hline : rendered (m :: mounts) = m.body ++ 10 :: rendered mounts := by
        rw [List.append_cons]
        exact List.flatMap_cons
      rw [hline, splitlines_append_newline, ih, List.flatMap_cons]
      rfl

lemma parseMountinfoLines_rendered (mounts : List Mount) (path : AbsPath) (slashes : Nat) :
    parseMountinfoLines (rendered mounts).splitlines
        (path.text ++ List.replicate slashes 47) =
      mounts.flatMap fun m => m.line.splitlines.filterMap (parseLine path.text) := by
  unfold parseMountinfoLines
  rw [rootOf_text, splitlines_rendered, List.filterMap_flatMap]

/-- What is read has no wider blanks. -/
lemma narrow_of_mem_parse {m : Mount} {root : Text} {row : Row}
    (h : row ∈ m.line.splitlines.filterMap (parseLine root)) : row.Narrow := by
  obtain ⟨line, hline, hrow⟩ := List.mem_filterMap.mp h
  exact narrow_of_parseLine m.escaped hline hrow

/-- A row without wider blanks is one of a mount without them. -/
lemma plain_of_narrow_row {m : Mount} (h : m.row.Narrow) : m.Plain := by
  have hmangled : ∀ {field : Text}, Narrow (mangle field) → Narrow field := by
    intro field hfield c hc hspace
    by_contra hwide
    rw [Bool.not_eq_true] at hwide
    have hmangled := hfield c (mem_mangle_of_wide hc hwide) hspace
    rw [hwide] at hmangled
    cases hmangled
  have hwith : Narrow (withRoot m.source m.root) := h.source
  unfold withRoot at hwith
  have hsource : Narrow m.source := by
    intro c hc
    refine hwith c ?_
    split
    · exact hc
    · exact List.mem_append_left _ (List.mem_append_left _ hc)
  have hroot : Narrow m.root := by
    split at hwith
    · next hslash =>
      rw [hslash]
      decide
    · exact fun c hc => hwith c
        (List.mem_append_left _ (List.mem_append_right _ (List.mem_cons_of_mem _ hc)))
  refine ⟨hroot, h.target, ?_, hmangled h.fstype, hsource, ?_⟩
  · exact hmangled fun c hc => h.options c (List.mem_append_left _ (List.mem_append_right _ hc))
  · exact hmangled fun c hc => h.options c
      (List.mem_append_right _ (List.mem_cons_of_mem _ (List.mem_append_right _ hc)))

/-- A text of a line, cut at its wider line breaks, that has the words of a mount under the path. -/
def Mount.Forges (path : AbsPath) (m : Mount) : Prop :=
  ∃ line ∈ m.line.splitlines, ∃ front back, line.words = front ++ [45] :: back ∧ [45] ∉ front ∧
    6 ≤ front.length ∧ 3 ≤ back.length ∧ ∃ target ∈ front[4]?,
      decodeMountinfoField target = path.text ∨
        path.text ++ [47] <+: decodeMountinfoField target

lemma exists_six {α : Type} {l : List α} (h : 6 ≤ l.length) :
    ∃ a b c d e f more, l = a :: b :: c :: d :: e :: f :: more := by
  match l, h with
  | a :: b :: c :: d :: e :: f :: more, _ => exact ⟨a, b, c, d, e, f, more, rfl⟩

lemma exists_three {α : Type} {l : List α} (h : 3 ≤ l.length) :
    ∃ a b c more, l = a :: b :: c :: more := by
  match l, h with
  | a :: b :: c :: more, _ => exact ⟨a, b, c, more, rfl⟩

/-- The rows of a mount are those of its text that has the words of one. -/
lemma forges_iff (m : Mount) (path : AbsPath) :
    m.Forges path ↔ m.line.splitlines.filterMap (parseLine path.text) ≠ [] := by
  rw [ne_eq, List.filterMap_eq_nil_iff]
  simp only [not_forall, exists_prop]
  refine exists_congr fun line => and_congr_right fun _ => ?_
  constructor
  · rintro ⟨front, back, hwords, hfront, hlong, hback, target, htarget, hunder⟩
    obtain ⟨htake, hdrop⟩ := takeWhile_separator hfront back
    obtain ⟨id, parent, device, fsRoot, fifth, options, optional, rfl⟩ := exists_six hlong
    obtain ⟨fstype, source, superOptions, more, rfl⟩ := exists_three hback
    obtain rfl : fifth = target := Option.some.inj htarget
    have hnot : ¬(decodeMountinfoField fifth ≠ path.text ∧
        ¬(path.text ++ [47]).isPrefixOf (decodeMountinfoField fifth) = true) := by
      rwa [List.isPrefixOf_iff_prefix, ← not_or, not_not]
    unfold parseLine rowOf
    rw [hwords, htake, hdrop]
    dsimp only
    rw [if_neg hnot]
    exact Option.some_ne_none _
  · intro h
    have hsplit := @List.takeWhile_append_dropWhile _ (fun w : Text => decide (w ≠ [45])) line.words
    have hhead := List.head?_dropWhile_not (fun w : Text => decide (w ≠ [45])) line.words
    have hfront : [45] ∉ line.words.takeWhile (· ≠ [45]) := fun hmem => by
      have hne := List.mem_takeWhile_imp hmem
      exact of_decide_eq_true hne rfl
    unfold parseLine rowOf at h
    split at h
    case h_1 id parent device fsRoot target options optional dash fstype source superOptions more
        hf hb =>
      rw [hf, hb] at hsplit
      rw [hf] at hfront
      rw [hb, List.head?_cons] at hhead
      obtain rfl : dash = [45] := by simpa using hhead
      refine ⟨_, _, hsplit.symm, hfront, by simp, by simp, target, rfl, ?_⟩
      by_contra hnot
      rw [not_or, ← List.isPrefixOf_iff_prefix] at hnot
      exact h (if_pos hnot)
    case h_2 => exact absurd rfl h

/-- The table is read as it is: below the path, or at the root if that is the path, no field has a
wider blank, and no other mount has the words of one. -/
structure Readable (mounts : List Mount) (path : AbsPath) : Prop where
  root : path.names = [] → ∀ m ∈ mounts, m.target.names = []
  plain : ∀ m ∈ mounts, path.Covers m.target → m.Plain
  honest : ∀ m ∈ mounts, ¬path.Covers m.target → ¬m.Forges path

/-- Lists of the same length that are made of parts of which none is longer. -/
lemma length_eq_of_flatMap {α β : Type} {f g : α → List β} {l : List α}
    (h : (l.flatMap f).length = (l.flatMap g).length) (hle : ∀ a ∈ l, (f a).length ≤ (g a).length) :
    ∀ a ∈ l, (f a).length = (g a).length := by
  induction l with
  | nil => exact fun a ha => absurd ha List.not_mem_nil
  | cons a l ih =>
      obtain ⟨ha, hl⟩ := List.forall_mem_cons.mp hle
      have htail : (l.flatMap f).length ≤ (l.flatMap g).length := by
        rw [List.length_flatMap, List.length_flatMap]
        exact List.sum_le_sum hl
      rw [List.flatMap_cons, List.flatMap_cons, List.length_append, List.length_append] at h
      exact List.forall_mem_cons.mpr ⟨by omega, ih (by omega) hl⟩

/-- A mount at `/m` and a name, of a share. -/
def sampleMount (name : Text) (h : name ≠ [] ∧ 47 ∉ name) : Mount where
  mountId := 2
  parentId := 1
  major := 0
  minor := 4
  root := [47]
  target := ⟨[[109], name], by
    simp only [List.forall_mem_cons, List.not_mem_nil, false_imp_iff, implies_true, and_true]
    exact ⟨by decide, h⟩⟩
  readOnly := true
  options := [44, 110]
  tags := [.shared 1]
  fstype := [99]
  source := [47, 47, 104, 47, 115]
  superReadOnly := false
  superOptions := []
  rootField := by decide
  fstypeField := by decide
  sourceField := by decide

/-- The path `/m`. -/
def samplePath : AbsPath := ⟨[[109]], by decide⟩

end AgentRuntimeOps.Mounts.Mountinfo
