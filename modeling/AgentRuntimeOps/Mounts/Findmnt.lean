import AgentRuntimeOps.Lib.Decoding
import AgentRuntimeOps.Lib.ShellWords
import AgentRuntimeOps.Lib.Checks

/-!
# The mount table as findmnt prints it

`findmnt -P` prints one line of `KEY="value"` pairs for each mount, with every byte that a shell
could misread as `\xHH`.  `parseFindmntPairs` reads the lines back through `shlex.split`.
-/

namespace AgentRuntimeOps.Mounts

open Lib

/-! ## Mounts -/

/-- An absolute path as the kernel writes it: no slash at the end, unless it is the root. -/
structure MountPath where
  bytes : List UInt8
  starts : bytes.head? = some 47
  ends : bytes ≠ [47] → bytes.getLast? ≠ some 47
deriving DecidableEq

namespace MountPath

/-- The path with a slash at its end: what every path below it starts with. -/
def dir (p : MountPath) : List UInt8 := if p.bytes = [47] then [47] else p.bytes ++ [47]

/-- `p` is the root of the tree or a path in it. -/
def AtOrUnder (root p : MountPath) : Prop := p = root ∨ root.dir <+: p.bytes

instance (root p : MountPath) : Decidable (AtOrUnder root p) :=
  inferInstanceAs (Decidable (_ ∨ _))

end MountPath

/-- A row of the mount table; of several rows with one target the last is on top. -/
structure Mount where
  target : MountPath
  source : List UInt8
  fstype : List UInt8
  options : List UInt8
  propagation : List UInt8
deriving DecidableEq

/-! ## findmnt -/

/-- The bytes that `findmnt -P` does not print as they are. -/
def isUnsafe (b : UInt8) : Bool :=
  b < 32 || 127 ≤ b || b == 34 || b == 36 || b == 92 || b == 96

/-- The digits of `%02x`. -/
def hexDigits (b : UInt8) : Text :=
  [(hexDigit (b.toNat / 16)).toNat, (hexDigit (b.toNat % 16)).toNat]

def escapeByte (b : UInt8) : Text := if isUnsafe b then [92, 120] ++ hexDigits b else [b.toNat]

def hexEscaped (raw : List UInt8) : Text := raw.flatMap escapeByte

/-- The columns of `-o TARGET,SOURCE,FSTYPE,OPTIONS,PROPAGATION`. -/
def Mount.columns (m : Mount) : List (Text × List UInt8) := [
  (Text.of "TARGET", m.target.bytes), (Text.of "SOURCE", m.source),
  (Text.of "FSTYPE", m.fstype), (Text.of "OPTIONS", m.options),
  (Text.of "PROPAGATION", m.propagation)]

def pair (column : Text × List UInt8) : Text := column.1 ++ [61, 34] ++ hexEscaped column.2 ++ [34]

/-- The pairs with blanks between them. -/
def pairs : List (Text × List UInt8) → Text
  | [] => []
  | [column] => pair column
  | column :: columns => pair column ++ 32 :: pairs columns

/-- What `findmnt -P` prints for a mount table. -/
def listing : List Mount → Text
  | [] => []
  | m :: table => pairs m.columns ++ 10 :: listing table

/-! ## Reading the lines -/

/-- The value of a digit of `[0-9A-Fa-f]`. -/
def hexValue (c : Nat) : Option Nat :=
  if 48 ≤ c ∧ c ≤ 57 then some (c - 48)
  else if 97 ≤ c ∧ c ≤ 102 then some (c - 87)
  else if 65 ≤ c ∧ c ≤ 70 then some (c - 55)
  else none

/-- `re.sub` over runs of `\xHH`: `run` holds the bytes of the run before the rest. -/
def decodeRuns (run : List UInt8) : Text → Text
  | 92 :: 120 :: high :: low :: rest =>
      match hexValue high, hexValue low with
      | some h, some l => decodeRuns (run ++ [UInt8.ofNat (16 * h + l)]) rest
      | _, _ =>
          Text.decodeWith Text.replaced run ++ 92 :: decodeRuns [] (120 :: high :: low :: rest)
  | c :: rest => Text.decodeWith Text.replaced run ++ c :: decodeRuns [] rest
  | [] => Text.decodeWith Text.replaced run

/-- `decode_findmnt_value` -/
def decodeFindmntValue (value : Text) : Text := decodeRuns [] value

/-- The entries of the dictionary, in the order in which they are assigned. -/
abbrev Row : Type := List (Text × Text)

/-- `row.get(key)` -/
def Row.get (row : Row) (key : Text) : Option Text :=
  (row.reverse.find? fun entry => entry.1 = key).map Prod.snd

/-- `key.lower()`, of ASCII letters. -/
def lower (key : Text) : Text := key.map fun c => if 65 ≤ c ∧ c ≤ 90 then c + 32 else c

/-- One word of a line: `key, value = part.split("=", 1)`, unless it has no `=`. -/
def readPart (part : Text) : Option (Text × Text) :=
  match part.dropWhile (fun c => c != 61) with
  | [] => none
  | _ :: value => some (lower (part.takeWhile fun c => c != 61), decodeFindmntValue value)

/-- `parse_findmnt_pairs`; the error is that of `shlex.split`. -/
def parseFindmntPairs (output : Text) : Except String (List Row) := do
  let rows ← (output.splitlines.map Text.strip).mapM fun line => do
    let parts ← Text.shellWords line
    pure (parts.filterMap readPart)
  pure (rows.filter fun row => !row.isEmpty)

/-! ## What is printed is read back -/

lemma ofNat_hexDigits (b : UInt8) : UInt8.ofNat (16 * (b.toNat / 16) + b.toNat % 16) = b := by
  rw [Nat.div_add_mod, UInt8.ofNat_toNat]

lemma hexValue_hexDigit {n : Nat} (h : n < 16) : hexValue (hexDigit n).toNat = some n := by
  interval_cases n <;> decide

/-- An escape is one more byte of the run. -/
lemma decodeRuns_of_isUnsafe {b : UInt8} (hb : isUnsafe b = true) (run : List UInt8) (t : Text) :
    decodeRuns run (escapeByte b ++ t) = decodeRuns (run ++ [b]) t := by
  have hhigh : b.toNat / 16 < 16 := by have := b.toNat_lt; omega
  have hlow : b.toNat % 16 < 16 := Nat.mod_lt _ (by omega)
  unfold escapeByte hexDigits
  rw [if_pos hb]
  show decodeRuns run (92 :: 120 :: _ :: _ :: t) = _
  rw [decodeRuns, hexValue_hexDigit hhigh, hexValue_hexDigit hlow]
  dsimp only
  rw [ofNat_hexDigits]

/-- A byte printed as it is ends the run. -/
lemma decodeRuns_of_not_isUnsafe {b : UInt8} (hb : isUnsafe b = false) (run : List UInt8)
    (t : Text) :
    decodeRuns run (escapeByte b ++ t) =
      Text.decodeWith Text.replaced run ++ b.toNat :: decodeRuns [] t := by
  have hslash : b.toNat ≠ 92 := by
    intro h
    have hb' : b = 92 := UInt8.toNat_inj.mp h
    subst hb'
    exact absurd hb (by decide)
  unfold escapeByte
  rw [if_neg (by rw [hb]; exact Bool.false_ne_true)]
  show decodeRuns run (b.toNat :: t) = _
  rw [decodeRuns]
  intro high low rest heq
  exact absurd heq hslash

/-- A slash is printed as it is: what stands on either side is decoded on its own. -/
lemma decodeRuns_append_slash (run a : List UInt8) (t : Text) :
    decodeRuns run (hexEscaped a ++ 47 :: t) =
      decodeRuns run (hexEscaped a) ++ 47 :: decodeRuns [] t := by
  induction a generalizing run with
  | nil =>
      show decodeRuns run (escapeByte 47 ++ t) = decodeRuns run [] ++ _
      rw [decodeRuns_of_not_isUnsafe (by decide)]
      rfl
  | cons b a ih =>
      have happend : hexEscaped (b :: a) = escapeByte b ++ hexEscaped a := List.flatMap_cons
      rw [happend, List.append_assoc]
      by_cases hb : isUnsafe b = true
      · rw [decodeRuns_of_isUnsafe hb, decodeRuns_of_isUnsafe hb]
        exact ih _
      · have hb' : isUnsafe b = false := Bool.eq_false_iff.mpr hb
        rw [decodeRuns_of_not_isUnsafe hb', decodeRuns_of_not_isUnsafe hb', ih,
          List.append_assoc, List.cons_append]

lemma decodeRuns_of_forall {bytes : List UInt8} (h : ∀ b ∈ bytes, isUnsafe b = true)
    (run : List UInt8) (t : Text) :
    decodeRuns run (bytes.flatMap escapeByte ++ t) = decodeRuns (run ++ bytes) t := by
  induction bytes generalizing run with
  | nil =>
      rw [List.append_nil]
      rfl
  | cons b bytes ih =>
      rw [List.flatMap_cons, List.append_assoc,
        decodeRuns_of_isUnsafe (h b List.mem_cons_self),
        ih (fun b hb => h b (List.mem_cons_of_mem _ hb)), List.append_assoc, List.singleton_append]

/-- Characters beyond ASCII are printed as escapes only. -/
lemma isUnsafe_of_mem_encode {c : Char} (hc : c.utf8Size ≠ 1) :
    ∀ b ∈ String.utf8EncodeChar c, isUnsafe b = true := by
  have hor : ∀ x y : UInt8, 128 ≤ y.toNat → isUnsafe (x ||| y) = true := by
    intro x y hy
    have hle : y.toNat ≤ (x ||| y).toNat := by
      rw [UInt8.toNat_or]
      exact Nat.right_le_or
    have hle' : (127 : UInt8) ≤ x ||| y :=
      UInt8.le_iff_toNat_le.mpr (show 127 ≤ (x ||| y).toNat by omega)
    simp [isUnsafe, hle']
  have hpos := Char.utf8Size_pos c
  have hle := c.utf8Size_le_four
  intro b hb
  obtain h | h | h : c.utf8Size = 2 ∨ c.utf8Size = 3 ∨ c.utf8Size = 4 := by omega
  · rw [String.utf8EncodeChar_eq_cons_cons h] at hb
    simp only [List.mem_cons, List.not_mem_nil, or_false] at hb
    rcases hb with rfl | rfl <;> exact hor _ _ (by decide)
  · rw [String.utf8EncodeChar_eq_cons_cons_cons h] at hb
    simp only [List.mem_cons, List.not_mem_nil, or_false] at hb
    rcases hb with rfl | rfl | rfl <;> exact hor _ _ (by decide)
  · rw [String.utf8EncodeChar_eq_cons_cons_cons_cons h] at hb
    simp only [List.mem_cons, List.not_mem_nil, or_false] at hb
    rcases hb with rfl | rfl | rfl | rfl <;> exact hor _ _ (by decide)

lemma encode_of_utf8Size_one {c : Char} (hc : c.utf8Size = 1) :
    ∃ b : UInt8, String.utf8EncodeChar c = [b] ∧ b.toNat = c.toNat := by
  refine ⟨c.val.toUInt8, String.utf8EncodeChar_eq_singleton hc, ?_⟩
  have hle : c.val.toNat ≤ 127 := UInt32.le_iff_toNat_le.mp (Char.utf8Size_eq_one_iff.mp hc)
  rw [UInt32.toNat_toUInt8]
  exact Nat.mod_eq_of_lt (by omega)

/-- A slash is a character of its own, so what stands before it is valid UTF-8 too. -/
lemma exists_utf8_of_append_slash {chars : List Char} {a b : List UInt8}
    (h : utf8 chars = a ++ 47 :: b) :
    ∃ front back, chars = front ++ '/' :: back ∧ utf8 front = a := by
  induction chars generalizing a with
  | nil => exact absurd h (by simp [utf8])
  | cons c chars ih =>
      rw [show utf8 (c :: chars) = String.utf8EncodeChar c ++ utf8 chars from
        List.flatMap_cons] at h
      by_cases hslash : c = '/'
      · subst hslash
        cases a with
        | nil => exact ⟨[], chars, rfl, rfl⟩
        | cons x a =>
            obtain ⟨hx, h⟩ := List.cons.inj h
            obtain ⟨front, back, rfl, rfl⟩ := ih h
            refine ⟨'/' :: front, back, rfl, ?_⟩
            rw [← hx]
            rfl
      · have hbytes : (47 : UInt8) ∉ String.utf8EncodeChar c := by
          intro hmem
          by_cases hone : c.utf8Size = 1
          · obtain ⟨b, hb, htoNat⟩ := encode_of_utf8Size_one hone
            rw [hb, List.mem_singleton] at hmem
            subst hmem
            exact hslash (Char.toNat_inj.mp htoNat.symm)
          · exact absurd (isUnsafe_of_mem_encode hone 47 hmem) (by decide)
        rcases List.append_eq_append_iff.mp h with ⟨a', ha, hrest⟩ | ⟨c', hc, hcons⟩
        · obtain ⟨front, back, rfl, hfront⟩ := ih hrest
          refine ⟨c :: front, back, rfl, ?_⟩
          rw [ha, ← hfront]
          exact List.flatMap_cons
        · cases c' with
          | nil =>
              rw [List.append_nil] at hc
              rw [← hc] at h
              obtain ⟨front, back, rfl, hfront⟩ := ih (a := []) (List.append_cancel_left h)
              refine ⟨c :: front, back, rfl, ?_⟩
              rw [show utf8 (c :: front) = String.utf8EncodeChar c ++ utf8 front from
                List.flatMap_cons, hfront, hc, List.append_nil]
          | cons x c' =>
              obtain ⟨rfl, -⟩ := List.cons.inj hcons
              exact absurd (hc ▸ List.mem_append_right a List.mem_cons_self) hbytes

lemma decodeRuns_utf8 (pending chars : List Char) :
    decodeRuns (utf8 pending) (hexEscaped (utf8 chars)) = Text.ofChars (pending ++ chars) := by
  induction chars generalizing pending with
  | nil =>
      rw [List.append_nil]
      exact Text.decodeWith_utf8 _ pending
  | cons c chars ih =>
      have happend : hexEscaped (utf8 (c :: chars)) =
          (String.utf8EncodeChar c).flatMap escapeByte ++ hexEscaped (utf8 chars) := by
        rw [show utf8 (c :: chars) = String.utf8EncodeChar c ++ utf8 chars from
          List.flatMap_cons]
        exact List.flatMap_append
      have hpending : utf8 pending ++ String.utf8EncodeChar c = utf8 (pending ++ [c]) := by
        rw [utf8_append]
        exact congrArg _ (List.append_nil _).symm
      have hchars : pending ++ c :: chars = (pending ++ [c]) ++ chars := by
        rw [List.append_assoc, List.singleton_append]
      rw [happend]
      by_cases hunsafe : ∀ b ∈ String.utf8EncodeChar c, isUnsafe b = true
      · rw [decodeRuns_of_forall hunsafe, hpending, ih, hchars]
      · obtain hone : c.utf8Size = 1 := not_not.mp fun hc => hunsafe (isUnsafe_of_mem_encode hc)
        obtain ⟨b, hb, htoNat⟩ := encode_of_utf8Size_one hone
        rw [hb] at hunsafe ⊢
        have hsafe : isUnsafe b = false := by
          refine Bool.eq_false_iff.mpr fun h => hunsafe fun b' hb' => ?_
          rwa [List.mem_singleton.mp hb']
        rw [List.flatMap_singleton, decodeRuns_of_not_isUnsafe hsafe, Text.decodeWith_utf8,
          show ([] : List UInt8) = utf8 [] from rfl, ih, htoNat]
        show pending.map Char.toNat ++ (c :: chars).map Char.toNat =
          (pending ++ c :: chars).map Char.toNat
        exact List.map_append.symm

/-- A value of valid UTF-8 is read back as its characters. -/
theorem decodeFindmntValue_of_encode {t : Text} {raw : List UInt8} (h : t.encode = some raw) :
    decodeFindmntValue (hexEscaped raw) = t := by
  obtain ⟨chars, hchars, rfl⟩ := Option.map_eq_some_iff.mp h
  rw [Text.chars?_eq_some_iff.mp hchars]
  exact decodeRuns_utf8 [] chars

/-! ## The lines -/

/-- Every character of an escape, and every byte printed as it is, is printable ASCII. -/
lemma printable_of_mem_escapeByte {b : UInt8} {c : Nat} (h : c ∈ escapeByte b) :
    32 ≤ c ∧ c ≤ 126 := by
  have hdigit : ∀ n < 16, 32 ≤ (hexDigit n).toNat ∧ (hexDigit n).toNat ≤ 126 := by decide
  have hlt := b.toNat_lt
  unfold escapeByte hexDigits at h
  split_ifs at h with hb
  · simp only [List.cons_append, List.nil_append, List.mem_cons, List.not_mem_nil,
      or_false] at h
    rcases h with rfl | rfl | rfl | rfl
    · decide
    · decide
    · exact hdigit _ (by omega)
    · exact hdigit _ (by omega)
  · rw [List.mem_singleton.mp h]
    simp only [isUnsafe, Bool.or_eq_true, decide_eq_true_eq, beq_iff_eq, not_or,
      UInt8.lt_iff_toNat_lt, UInt8.le_iff_toNat_le] at hb
    have h32 : (32 : UInt8).toNat = 32 := rfl
    have h127 : (127 : UInt8).toNat = 127 := rfl
    omega

lemma printable_of_mem_hexEscaped {raw : List UInt8} {c : Nat} (h : c ∈ hexEscaped raw) :
    32 ≤ c ∧ c ≤ 126 := by
  obtain ⟨b, -, hb⟩ := List.mem_flatMap.mp h
  exact printable_of_mem_escapeByte hb

/-- Inside double quotes the escapes of a value are kept as they are. -/
lemma shellWordsFrom_hexEscaped (raw : List UInt8) (token rest : Text) :
    Text.shellWordsFrom (.quoted 34 token) (hexEscaped raw ++ rest) =
      Text.shellWordsFrom (.quoted 34 (token ++ hexEscaped raw)) rest := by
  induction raw generalizing token with
  | nil =>
      show Text.shellWordsFrom _ ([] ++ rest) = Text.shellWordsFrom (.quoted 34 (token ++ [])) rest
      rw [List.nil_append, List.append_nil]
  | cons b raw ih =>
      have happend : hexEscaped (b :: raw) = escapeByte b ++ hexEscaped raw := List.flatMap_cons
      have hbyte : ∀ rest, Text.shellWordsFrom (.quoted 34 token) (escapeByte b ++ rest) =
          Text.shellWordsFrom (.quoted 34 (token ++ escapeByte b)) rest := by
        intro rest
        have hdigit : ∀ n < 16, (hexDigit n).toNat ≠ 34 ∧ (hexDigit n).toNat ≠ 92 := by decide
        have hlt := b.toNat_lt
        unfold escapeByte hexDigits
        split_ifs with hb
        · rw [List.append_assoc, List.cons_append, List.cons_append, List.nil_append,
            Text.shellWordsFrom_quoted_backslash (by decide) (by decide),
            Text.shellWordsFrom_quoted_of_forall, List.append_assoc]
          intro c hc
          simp only [List.mem_cons, List.not_mem_nil, or_false] at hc
          rcases hc with rfl | rfl
          · exact hdigit _ (by omega)
          · exact hdigit _ (by omega)
        · refine Text.shellWordsFrom_quoted_of_forall (fun c hc => ?_) token rest
          rw [List.mem_singleton.mp hc]
          simp only [isUnsafe, Bool.or_eq_true, decide_eq_true_eq, beq_iff_eq, not_or] at hb
          exact ⟨fun h => hb.1.1.1.2 (UInt8.toNat_inj.mp h),
            fun h => hb.1.2 (UInt8.toNat_inj.mp h)⟩
      rw [happend, List.append_assoc, hbyte, ih, List.append_assoc]

/-- What a pair is as one word. -/
def word (column : Text × List UInt8) : Text := column.1 ++ 61 :: hexEscaped column.2

lemma shellWords_pairs {columns : List (Text × List UInt8)}
    (h : ∀ column ∈ columns, column.1 ≠ [] ∧ ∀ c ∈ column.1, Text.isBare c = true) :
    Text.shellWords (pairs columns) = .ok (columns.map word) := by
  have hpair : ∀ column : Text × List UInt8, column.1 ≠ [] →
      (∀ c ∈ column.1, Text.isBare c = true) → ∀ rest,
      Text.shellWordsFrom .between (pair column ++ rest) =
        Text.shellWordsFrom (.word (word column)) rest := by
    intro column hne hbare rest
    have hprefix : ∀ c ∈ column.1 ++ [61], Text.isBare c = true := by
      intro c hc
      rcases List.mem_append.mp hc with hc | hc
      · exact hbare c hc
      · rw [List.mem_singleton.mp hc]
        decide
    have hshape : pair column ++ rest =
        (column.1 ++ [61]) ++ (34 :: (hexEscaped column.2 ++ 34 :: rest)) := by
      simp [pair]
    rw [hshape, Text.shellWordsFrom_between_bare hprefix (by simp), Text.shellWordsFrom_open,
      shellWordsFrom_hexEscaped, Text.shellWordsFrom_close]
    simp [word]
  unfold Text.shellWords
  induction columns with
  | nil => rfl
  | cons column columns ih =>
      obtain ⟨hne, hbare⟩ := h column List.mem_cons_self
      have ih := ih fun column hc => h column (List.mem_cons_of_mem _ hc)
      cases columns with
      | nil =>
          have hone := hpair column hne hbare []
          rw [List.append_nil] at hone
          exact hone
      | cons next columns =>
          show Text.shellWordsFrom .between (pair column ++ 32 :: pairs (next :: columns)) = _
          rw [hpair column hne hbare, Text.shellWordsFrom_blank, ih]
          rfl

/-- A word is read as its key and its value. -/
lemma readPart_word {column : Text × List UInt8} (h : ∀ c ∈ column.1, c ≠ 61) :
    readPart (word column) =
      some (lower column.1, decodeFindmntValue (hexEscaped column.2)) := by
  have hkey : ∀ c ∈ column.1, (c != 61) = true := fun c hc => bne_iff_ne.mpr (h c hc)
  have hdrop : (word column).dropWhile (fun c => c != 61) = 61 :: hexEscaped column.2 := by
    unfold word
    rw [List.dropWhile_append_of_pos hkey]
    rfl
  have htake : (word column).takeWhile (fun c => c != 61) = column.1 := by
    unfold word
    rw [List.takeWhile_append_of_pos hkey]
    exact List.append_nil _
  unfold readPart
  rw [hdrop, htake]

/-- The row that is read back for a mount. -/
def Mount.row (m : Mount) : Row :=
  m.columns.map fun column => (lower column.1, decodeFindmntValue (hexEscaped column.2))

/-- The target under which a mount is known to the callers of `findmnt`. -/
def Mount.shown (m : Mount) : Text := decodeFindmntValue (hexEscaped m.target.bytes)

lemma bare_of_mem_columns {m : Mount} : ∀ column ∈ m.columns,
    column.1 ≠ [] ∧ (∀ c ∈ column.1, Text.isBare c = true ∧ c ≠ 61 ∧ 32 ≤ c ∧ c ≤ 126) := by
  have hkeys : ∀ key ∈ m.columns.map Prod.fst,
      key ≠ [] ∧ (∀ c ∈ key, Text.isBare c = true ∧ c ≠ 61 ∧ 32 ≤ c ∧ c ≤ 126) := by
    show ∀ key ∈ [Text.of "TARGET", Text.of "SOURCE", Text.of "FSTYPE", Text.of "OPTIONS",
      Text.of "PROPAGATION"], _
    decide
  exact fun column hc => hkeys _ (List.mem_map_of_mem hc)

lemma pairs_append_quote {columns : List (Text × List UInt8)} (hne : columns ≠ []) :
    ∃ front, pairs columns = front ++ [34] := by
  induction columns with
  | nil => exact absurd rfl hne
  | cons column columns ih =>
      cases columns with
      | nil => exact ⟨_, rfl⟩
      | cons next columns =>
          obtain ⟨front, hfront⟩ := ih (List.cons_ne_nil _ _)
          refine ⟨pair column ++ 32 :: front, ?_⟩
          show pair column ++ 32 :: pairs (next :: columns) = _
          rw [hfront, List.append_assoc, List.cons_append]

/-- A line holds printable ASCII only, from a letter to a quote. -/
lemma pairs_columns (m : Mount) :
    (∀ c ∈ pairs m.columns, 32 ≤ c ∧ c ≤ 126) ∧
      ∃ body, pairs m.columns = 84 :: (body ++ [34]) := by
  have hpair : ∀ column ∈ m.columns, ∀ c ∈ pair column, 32 ≤ c ∧ c ≤ 126 := by
    intro column hcolumn c hc
    simp only [pair, List.mem_append, List.mem_cons, List.not_mem_nil, or_false] at hc
    rcases hc with ((hc | rfl | rfl) | hc) | rfl
    · exact ((bare_of_mem_columns column hcolumn).2 c hc).2.2
    · decide
    · decide
    · exact printable_of_mem_hexEscaped hc
    · decide
  constructor
  · have hall : ∀ columns : List (Text × List UInt8), (∀ column ∈ columns, column ∈ m.columns) →
        ∀ c ∈ pairs columns, 32 ≤ c ∧ c ≤ 126 := by
      intro columns
      induction columns with
      | nil => exact fun _ c hc => absurd hc List.not_mem_nil
      | cons column columns ih =>
          intro hmem c hc
          have hhead := hpair column (hmem column List.mem_cons_self)
          cases columns with
          | nil => exact hhead c hc
          | cons next columns =>
              rcases List.mem_append.mp hc with hc | hc
              · exact hhead c hc
              · rcases List.mem_cons.mp hc with rfl | hc
                · decide
                · exact ih (fun column hc => hmem column (List.mem_cons_of_mem _ hc)) c hc
    exact hall _ fun _ h => h
  · obtain ⟨front, hfront⟩ := @pairs_append_quote m.columns (List.cons_ne_nil _ _)
    obtain ⟨rest, hrest⟩ : ∃ rest, pairs m.columns = 84 :: rest := ⟨_, rfl⟩
    cases front with
    | nil => exact absurd (hfront.symm.trans hrest) (by simp)
    | cons c front =>
        have hc : c = 84 := (List.cons.inj (hfront.symm.trans hrest)).1
        exact ⟨front, by rw [hfront, hc, List.cons_append]⟩

lemma strip_pairs_columns (m : Mount) : (pairs m.columns).strip = pairs m.columns := by
  obtain ⟨-, body, hbody⟩ := pairs_columns m
  have hfirst : (pairs m.columns).dropWhile Text.isSpace = pairs m.columns := by
    rw [hbody]
    rfl
  unfold Text.strip
  rw [hfirst, hbody, ← List.cons_append, List.reverse_append]
  show ((34 :: (84 :: body).reverse).dropWhile Text.isSpace).reverse = _
  rw [show (34 :: (84 :: body).reverse).dropWhile Text.isSpace = 34 :: (84 :: body).reverse from
    rfl, List.reverse_cons, List.reverse_reverse]

lemma not_isLineBreak_of_printable {c : Nat} (h : 32 ≤ c ∧ c ≤ 126) :
    Text.isLineBreak c = false := by
  simp only [Text.isLineBreak, Bool.or_eq_false_iff, Bool.and_eq_false_iff,
    decide_eq_false_iff_not, beq_eq_false_iff_ne]
  omega

lemma notMem_listing (table : List Mount) : 13 ∉ listing table := by
  induction table with
  | nil => exact List.not_mem_nil
  | cons m table ih =>
      intro h
      rcases List.mem_append.mp h with h | h
      · exact absurd ((pairs_columns m).1 13 h).1 (by decide)
      · rcases List.mem_cons.mp h with h | h
        · exact absurd h (by decide)
        · exact ih h

lemma splitlines_listing (table : List Mount) :
    (listing table).splitlines = table.map fun m => pairs m.columns := by
  induction table with
  | nil => rfl
  | cons m table ih =>
      have hprintable := (pairs_columns m).1
      have hline : 13 ∉ pairs m.columns := fun h => absurd (hprintable 13 h).1 (by decide)
      show Text.splitlines (pairs m.columns ++ 10 :: listing table) = _
      rw [Text.splitlines_append hline (notMem_listing table), ih,
        List.splitOnP_eq_singleton fun c hc => ?_]
      · rfl
      · exact not_isLineBreak_of_printable (hprintable c hc)

/-- The listing of a mount table is read back row by row. -/
theorem parseFindmntPairs_listing (table : List Mount) :
    parseFindmntPairs (listing table) = .ok (table.map Mount.row) := by
  have hline : ∀ m : Mount,
      (do let parts ← Text.shellWords (pairs m.columns); pure (parts.filterMap readPart) :
        Except String Row) = .ok m.row := by
    intro m
    rw [shellWords_pairs fun column hc => ⟨(bare_of_mem_columns column hc).1,
      fun c hmem => ((bare_of_mem_columns column hc).2 c hmem).1⟩]
    show Except.ok ((m.columns.map word).filterMap readPart) = .ok m.row
    rw [List.filterMap_map]
    refine congrArg Except.ok ?_
    unfold Mount.row
    rw [← List.filterMap_eq_map]
    refine List.filterMap_congr fun column hc => ?_
    exact readPart_word fun c hmem => ((bare_of_mem_columns column hc).2 c hmem).2.1
  unfold parseFindmntPairs
  rw [splitlines_listing, List.map_map]
  have hrows : ∀ table : List Mount,
      (table.map (Text.strip ∘ fun m => pairs m.columns)).mapM (fun line => do
        let parts ← Text.shellWords line
        pure (parts.filterMap readPart)) = (.ok (table.map Mount.row) : Except String _) := by
    intro table
    induction table with
    | nil => rfl
    | cons m table ih =>
        rw [List.map_cons, List.mapM_cons, ih]
        show (do let row ← (do
                    let parts ← Text.shellWords (pairs m.columns).strip
                    pure (parts.filterMap readPart)); _) = _
        rw [strip_pairs_columns, hline]
        rfl
  rw [hrows]
  show Except.ok ((table.map Mount.row).filter _) = _
  rw [List.filter_eq_self.mpr]
  intro row hrow
  obtain ⟨m, -, rfl⟩ := List.mem_map.mp hrow
  rfl

lemma decodeWith_replaced_ne_nil {raw : List UInt8} (h : raw ≠ []) :
    Text.decodeWith Text.replaced raw ≠ [] := by
  obtain ⟨b, raw, rfl⟩ := List.exists_cons_of_ne_nil h
  show Text.decodeSteps Text.replaced (raw.length + 1) (b :: raw) ≠ []
  rw [Text.decodeSteps]
  · split
    · exact List.cons_ne_nil _ _
    · exact List.append_ne_nil_of_left_ne_nil (List.cons_ne_nil _ _) _
  · exact List.cons_ne_nil _ _

lemma decodeRuns_ne_nil {run : List UInt8} {t : Text} (h : run ≠ [] ∨ t ≠ []) :
    decodeRuns run t ≠ [] := by
  fun_induction decodeRuns run t with
  | case1 run high low rest h l hh hl ih => exact ih (.inl (by simp))
  | case2 => simp
  | case3 => simp
  | case4 run => exact decodeWith_replaced_ne_nil (by simpa using h)

lemma hexEscaped_ne_nil {raw : List UInt8} (h : raw ≠ []) : hexEscaped raw ≠ [] := by
  obtain ⟨b, raw, rfl⟩ := List.exists_cons_of_ne_nil h
  rw [show hexEscaped (b :: raw) = escapeByte b ++ hexEscaped raw from List.flatMap_cons]
  refine List.append_ne_nil_of_left_ne_nil ?_ _
  unfold escapeByte
  split_ifs <;> simp

lemma shown_ne_nil (m : Mount) : m.shown ≠ [] := by
  refine decodeRuns_ne_nil (.inr (hexEscaped_ne_nil fun h => ?_))
  have hstarts := m.target.starts
  rw [h] at hstarts
  exact nomatch hstarts

/-- What stands below a path is shown below it, and so is longer. -/
lemma length_shown_lt {m p : Mount} (hdir : p.target.dir <+: m.target.bytes)
    (hne : p.target ≠ m.target) : p.shown.length < m.shown.length := by
  have hslash : ∀ t, decodeRuns [] (47 :: t) = 47 :: decodeRuns [] t :=
    fun t => decodeRuns_append_slash [] [] t
  obtain ⟨rest, hrest⟩ := hdir
  unfold MountPath.dir at hrest
  unfold Mount.shown decodeFindmntValue
  split_ifs at hrest with hroot
  · have hcons : m.target.bytes = 47 :: rest := hrest.symm
    have hrest' : rest ≠ [] := by
      rintro rfl
      have hbytes : p.target.bytes = m.target.bytes := hroot.trans hrest
      refine hne ?_
      obtain ⟨⟨_, _, _⟩, _, _, _, _⟩ := m
      obtain ⟨⟨_, _, _⟩, _, _, _, _⟩ := p
      simpa using hbytes
    have hlong := List.length_pos_of_ne_nil
      (decodeRuns_ne_nil (.inr (hexEscaped_ne_nil hrest') : [] ≠ [] ∨ _))
    rw [hroot, hcons]
    show (decodeRuns [] (47 :: [])).length < (decodeRuns [] (47 :: hexEscaped rest)).length
    rw [hslash, hslash, List.length_cons, List.length_cons]
    exact Nat.succ_lt_succ hlong
  · rw [← hrest, List.append_assoc]
    show _ < (decodeRuns [] ((p.target.bytes ++ 47 :: rest).flatMap escapeByte)).length
    rw [List.flatMap_append, List.flatMap_cons]
    show _ < (decodeRuns [] (hexEscaped p.target.bytes ++ 47 :: hexEscaped rest)).length
    rw [decodeRuns_append_slash, List.length_append, List.length_cons]
    omega

end AgentRuntimeOps.Mounts
