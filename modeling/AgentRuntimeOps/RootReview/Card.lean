import Mathlib
import AgentRuntimeOps.Lib.Text

/-!
# Review cards

The part of `root_review.py` that makes the text of a card: the checks of the purpose and of the
command, the card, and the test for a card that is pending.  The checks look for control characters
and for the first words of a line; a reader of the card looks at its lines.

`publish_unambiguous` says for which purposes and commands the lines of the card are those that are
meant.
-/

namespace AgentRuntimeOps.RootReview

open AgentRuntimeOps.Lib

/-! ## The text of a card -/

/-- What the calls raise. -/
inductive Raised where
  /-- `RootReviewError` -/
  | rootReview (code : String)
  | unicodeEncodeError
  /-- The exception of a step that is not ours to compute. -/
  | outside
  deriving DecidableEq, Repr

def maxRequestBytes : Nat := 64 * 1024

def maxCommandBytes : Nat := 32 * 1024

/-- The categories that a card does not hold. -/
def isFiltered (c : Nat) : Bool := Text.isControl c || Text.isFormat c || Text.isSurrogate c

/-- `_safe_single_line` -/
def safeSingleLine (value : Text) (field : String) (maximumChars : Nat) : Except Raised Text :=
  if value = [] ∨ maximumChars < value.length then
    .error (.rootReview ("root_review_" ++ field ++ "_invalid"))
  else if ∃ c ∈ value, c ∈ [13, 10, 9] ∨ isFiltered c = true then
    .error (.rootReview ("root_review_" ++ field ++ "_invalid"))
  else .ok value

/-- A line that no command holds. -/
def isForbidden (line : Text) : Bool :=
  decide (line ∈ [Text.of "COMMAND_BEGIN", Text.of "COMMAND_END"]) ||
    ["STATUS=", "command=", "PURPOSE=", "# 목적:"].any fun start =>
      (Text.of start).isPrefixOf line

/-- `_safe_command` -/
def safeCommand (value : Text) : Except Raised Text :=
  if value = [] ∨ value ≠ value.strip then .error (.rootReview "root_review_command_invalid")
  else
    match value.encode with
    | none => .error .unicodeEncodeError
    | some raw =>
        if maxCommandBytes < raw.length then .error (.rootReview "root_review_command_invalid")
        else if ∃ c ∈ value, c = 13 ∨ c ≠ 10 ∧ isFiltered c = true then
          .error (.rootReview "root_review_command_invalid")
        else if ∃ line ∈ value.splitlines, isForbidden line = true then
          .error (.rootReview "root_review_command_invalid")
        else .ok value

/-- `secrets.token_hex(16)`, of the random bytes. -/
def tokenHex (random : Vector UInt8 16) : Text :=
  Text.ofChars (random.toList.flatMap fun byte =>
    [hexDigit (byte.toNat / 16), hexDigit (byte.toNat % 16)])

/-- The lines for the command. -/
def commandProjection (command : Text) : Text :=
  if 10 ∉ command then Text.of "command=" ++ command ++ Text.of "\n"
  else Text.of "COMMAND_BEGIN\n" ++ command ++ Text.of "\nCOMMAND_END\n"

/-- A card. -/
def cardText (purpose command cardId : Text) : Text :=
  Text.of "STATUS=WAITING_FOR_USER_REVIEW_AND_APPROVAL_NOT_EXECUTED\n" ++
    (Text.of "CARD_ID=" ++ cardId ++ Text.of "\n") ++
    (Text.of "# 목적: " ++ purpose ++ Text.of "\n") ++ commandProjection command

/-- The bytes of a card. -/
def requestBytes (purpose command cardId : Text) : Except Raised (List UInt8) :=
  match (cardText purpose command cardId).encode with
  | none => .error .unicodeEncodeError
  | some raw =>
      if maxRequestBytes < raw.length then .error (.rootReview "root_review_request_too_large")
      else .ok raw

/-- What `publish` makes of its arguments. -/
def publishedCard (purpose command : Text) (random : Vector UInt8 16) :
    Except Raised (List UInt8) := do
  let purpose ← safeSingleLine purpose "purpose" 240
  let command ← safeCommand command
  requestBytes purpose command (tokenHex random)

/-- `_INITIAL_NO_PENDING` -/
def initialNoPending : List UInt8 := utf8
  "# 아직 실행 요청 없음\n# 이 pane은 표시 전용이며 아래 root pane에서 사용자만 실행합니다.\n".toList

/-- `_CANONICAL_NO_PENDING` -/
def canonicalNoPending : List UInt8 := utf8
  ("STATUS=NO_PENDING_ROOT_COMMAND\n" ++
    "PURPOSE=Previous root-review card was observed and cleared; " ++
    "no next root command is pending.\n" ++
    "TRANSCRIPT_VERIFIED=YES\nPOST_STATE_VERIFIED=YES\n").toList

/-- `_is_no_pending` -/
def isNoPending (raw : List UInt8) : Bool :=
  raw == initialNoPending || raw == canonicalNoPending ||
    match Text.decode raw with
    | none => false
    | some text =>
        let lines := text.splitlines
        lines.head? == some (Text.of "STATUS=NO_PENDING_ROOT_COMMAND") &&
          !lines.any fun line => (Text.of "command=").isPrefixOf line

/-! ## What is meant -/

def IsStatusLine (line : Text) : Prop := Text.of "STATUS=" <+: line

def IsCardIdLine (line : Text) : Prop := Text.of "CARD_ID=" <+: line

def IsPurposeLine (line : Text) : Prop := Text.of "# 목적: " <+: line

/-- The lines are one command, with this text. -/
def IsCommand (lines : List Text) (command : Text) : Prop :=
  lines = [Text.of "command=" ++ command] ∨
    ∃ block, lines = Text.of "COMMAND_BEGIN" :: (block ++ [Text.of "COMMAND_END"]) ∧
      Text.of "COMMAND_BEGIN" ∉ block ∧ Text.of "COMMAND_END" ∉ block ∧
      [10].intercalate block = command

/-- The lines of a card: one for the status, one for its id, one for the purpose, and the
command. -/
def Unambiguous (lines : List Text) (command : Text) : Prop :=
  ∃ status cardId purpose rest, lines = status :: cardId :: purpose :: rest ∧
    IsStatusLine status ∧ IsCardIdLine cardId ∧ IsPurposeLine purpose ∧ IsCommand rest command ∧
    ∀ line ∈ rest, ¬IsStatusLine line ∧ ¬IsCardIdLine line ∧ ¬IsPurposeLine line

/-- The call raises a `RootReviewError`, or the card that it writes is unambiguous and pending. -/
def CardKept (purpose command : Text) (random : Vector UInt8 16) : Prop :=
  match publishedCard purpose command random with
  | .error e => ∃ code, e = .rootReview code
  | .ok raw => isNoPending raw = false ∧
      ∃ text, Text.decode raw = some text ∧ Unambiguous text.splitlines command

/-- A line or a paragraph separator. -/
def HasSeparator (t : Text) : Prop := 0x2028 ∈ t ∨ 0x2029 ∈ t

/-- What is published as it is meant: a command that cannot be encoded is refused for its blanks,
nothing that is taken has a separator, and no line of a longer command is one for a card id. -/
def Clear (purpose command : Text) : Prop :=
  (∃ e, safeSingleLine purpose "purpose" 240 = .error e) ∨ command = [] ∨ command ≠ command.strip ∨
    command.encode ≠ none ∧ ((∃ e, safeCommand command = .error e) ∨
      ¬HasSeparator purpose ∧ ¬HasSeparator command ∧
        (10 ∈ command → ∀ line ∈ command.splitlines, ¬IsCardIdLine line))

/-! ## What is taken -/

section taken

variable {purpose command value v : Text} {e : Raised}

lemma safeSingleLine_error {field : String} {maximumChars : Nat}
    (h : safeSingleLine value field maximumChars = .error e) : ∃ code, e = .rootReview code := by
  unfold safeSingleLine at h
  split_ifs at h
  · cases h
    exact ⟨_, rfl⟩
  · cases h
    exact ⟨_, rfl⟩

lemma safeSingleLine_ok {field : String} {maximumChars : Nat}
    (h : safeSingleLine value field maximumChars = .ok v) :
    v = value ∧ value.length ≤ maximumChars ∧ ∀ c ∈ value, isFiltered c = false := by
  unfold safeSingleLine at h
  split_ifs at h with hlength hfiltered
  cases h
  refine ⟨rfl, not_lt.mp fun hlt => hlength (.inr hlt), fun c hc => ?_⟩
  exact Bool.eq_false_iff.mpr fun hbad => hfiltered ⟨c, hc, .inr hbad⟩

lemma safeCommand_error (h : safeCommand value = .error e) :
    (∃ code, e = .rootReview code) ∨
      e = .unicodeEncodeError ∧ value ≠ [] ∧ value = value.strip ∧ value.encode = none := by
  unfold safeCommand at h
  by_cases hblank : value = [] ∨ value ≠ value.strip
  · rw [if_pos hblank] at h
    cases h
    exact .inl ⟨_, rfl⟩
  rw [if_neg hblank] at h
  rw [not_or, not_not] at hblank
  split at h
  case h_1 hencode =>
    cases h
    exact .inr ⟨rfl, hblank.1, hblank.2, hencode⟩
  case h_2 raw hencode =>
    split_ifs at h
    · cases h
      exact .inl ⟨_, rfl⟩
    · cases h
      exact .inl ⟨_, rfl⟩
    · cases h
      exact .inl ⟨_, rfl⟩

/-- What is known of a command that is taken. -/
structure Taken (command : Text) : Prop where
  nonempty : command ≠ []
  stripped : command = command.strip
  encoded : ∃ raw, command.encode = some raw ∧ raw.length ≤ maxCommandBytes
  returns : 13 ∉ command
  filtered : ∀ c ∈ command, c ≠ 10 → isFiltered c = false
  lines : ∀ line ∈ command.splitlines, isForbidden line = false

lemma safeCommand_ok (h : safeCommand value = .ok v) : v = value ∧ Taken value := by
  unfold safeCommand at h
  by_cases hblank : value = [] ∨ value ≠ value.strip
  · rw [if_pos hblank] at h
    cases h
  rw [if_neg hblank] at h
  rw [not_or, not_not] at hblank
  split at h
  case h_1 => cases h
  case h_2 raw hencode =>
    split_ifs at h with hlong hbad hline
    cases h
    exact ⟨rfl, {
      nonempty := hblank.1
      stripped := hblank.2
      encoded := ⟨raw, hencode, not_lt.mp hlong⟩
      returns := fun hmem => hbad ⟨13, hmem, .inl rfl⟩
      filtered := fun c hc hne => Bool.eq_false_iff.mpr fun hf => hbad ⟨c, hc, .inr ⟨hne, hf⟩⟩
      lines := fun line hmem => Bool.eq_false_iff.mpr fun hf => hline ⟨line, hmem, hf⟩ }⟩

/-- Of what ends a line only the separators are not filtered. -/
lemma isFiltered_of_isLineBreak {c : Nat} (h : Text.isLineBreak c = true) :
    isFiltered c = true ∨ c = 0x2028 ∨ c = 0x2029 := by
  unfold Text.isLineBreak at h
  simp only [Bool.or_eq_true, Bool.and_eq_true, decide_eq_true_eq, beq_iff_eq] at h
  unfold isFiltered Text.isControl
  simp only [Bool.or_eq_true, Bool.and_eq_true, decide_eq_true_eq]
  omega

lemma isValidChar_of_isFiltered {c : Nat} (h : isFiltered c = false) : c.isValidChar := by
  unfold isFiltered Text.isSurrogate at h
  simp only [Bool.or_eq_false_iff, Bool.not_eq_false', decide_eq_true_eq] at h
  exact h.2

end taken

/-! ## The lines of a card -/

section lines

variable {purpose command : Text} {random : Vector UInt8 16}

lemma isHexDigit_of_mem_tokenHex {c : Nat} (hc : c ∈ tokenHex random) : 48 ≤ c ∧ c ≤ 102 := by
  obtain ⟨d, hd, rfl⟩ := List.mem_map.mp hc
  obtain ⟨byte, -, hmem⟩ := List.mem_flatMap.mp hd
  have hbyte := byte.toNat_lt
  have hdigit : ∀ n, n < 16 → 48 ≤ (hexDigit n).toNat ∧ (hexDigit n).toNat ≤ 102 := by
    intro n hn
    interval_cases n <;> decide
  rcases List.mem_cons.mp hmem with rfl | hmem
  · exact hdigit _ (by omega)
  · rw [List.mem_singleton.mp hmem]
    exact hdigit _ (by omega)

lemma length_tokenHex : (tokenHex random).length = 32 := by
  unfold tokenHex Text.ofChars
  rw [List.length_map, List.length_flatMap]
  simp

/-- The lines for the command. -/
def commandLines (command : Text) : List Text :=
  if 10 ∉ command then (Text.of "command=" ++ command).splitOnP Text.isLineBreak
  else Text.of "COMMAND_BEGIN" ::
    (command.splitOnP Text.isLineBreak ++ [Text.of "COMMAND_END"])

lemma splitlines_commandProjection (hreturns : 13 ∉ command) :
    (commandProjection command).splitlines = commandLines command := by
  unfold commandProjection commandLines
  by_cases hline : 10 ∉ command
  · rw [if_pos hline, if_pos hline]
    have hstart : 13 ∉ Text.of "command=" ++ command := by
      rw [List.mem_append]
      exact fun h => h.elim (by decide) hreturns
    exact (Text.splitlines_append hstart (by exact List.not_mem_nil)).trans (List.append_nil _)
  · rw [if_neg hline, if_neg hline]
    have hend : (13 : Nat) ∉ Text.of "COMMAND_END\n" := by decide
    have hrest : 13 ∉ command ++ Text.of "\nCOMMAND_END\n" := by
      rw [List.mem_append]
      exact fun h => h.elim hreturns (by decide)
    have hbegin := Text.splitlines_append (s := Text.of "COMMAND_BEGIN") (by decide) hrest
    have hblock := Text.splitlines_append hreturns hend
    rw [show Text.of "COMMAND_BEGIN\n" ++ command ++ Text.of "\nCOMMAND_END\n" =
      Text.of "COMMAND_BEGIN" ++ 10 :: (command ++ Text.of "\nCOMMAND_END\n") by
        rw [List.append_assoc]; rfl, hbegin,
      show command ++ Text.of "\nCOMMAND_END\n" = command ++ 10 :: Text.of "COMMAND_END\n" from rfl,
      hblock]
    rfl

/-- The first line of a card. -/
def statusLine : Text := Text.of "STATUS=WAITING_FOR_USER_REVIEW_AND_APPROVAL_NOT_EXECUTED"

lemma returns_commandProjection (hreturns : 13 ∉ command) : 13 ∉ commandProjection command := by
  unfold commandProjection
  split_ifs
  · simp only [List.mem_append, not_or]
    exact ⟨⟨by decide, hreturns⟩, by decide⟩
  · simp only [List.mem_append, not_or]
    exact ⟨⟨by decide, hreturns⟩, by decide⟩

/-- A purpose that has a break is more than one line. -/
lemma splitlines_cardText (hpurpose : 13 ∉ purpose) (hcommand : 13 ∉ command) :
    (cardText purpose command (tokenHex random)).splitlines =
      statusLine :: (Text.of "CARD_ID=" ++ tokenHex random) ::
        ((Text.of "# 목적: " ++ purpose).splitOnP Text.isLineBreak ++ commandLines command) := by
  have hid : 13 ∉ tokenHex random := fun h => by
    have hrange := isHexDigit_of_mem_tokenHex h
    omega
  have hprojection := returns_commandProjection hcommand
  have hthird : 13 ∉ Text.of "# 목적: " ++ purpose := by
    rw [List.mem_append]
    exact fun h => h.elim (by decide) hpurpose
  have hsecond : 13 ∉ Text.of "CARD_ID=" ++ tokenHex random := by
    rw [List.mem_append]
    exact fun h => h.elim (by decide) hid
  have hrest₃ : 13 ∉ (Text.of "# 목적: " ++ purpose) ++ 10 :: commandProjection command := by
    simp only [List.mem_append, List.mem_cons, not_or]
    exact ⟨⟨by decide, hpurpose⟩, by decide, hprojection⟩
  have hrest₂ : 13 ∉ (Text.of "CARD_ID=" ++ tokenHex random) ++
      10 :: ((Text.of "# 목적: " ++ purpose) ++ 10 :: commandProjection command) := by
    simp only [List.mem_append, List.mem_cons, not_or] at hrest₃ ⊢
    exact ⟨⟨by decide, hid⟩, by decide, hrest₃⟩
  have hcard : cardText purpose command (tokenHex random) = statusLine ++
      10 :: ((Text.of "CARD_ID=" ++ tokenHex random) ++
        10 :: ((Text.of "# 목적: " ++ purpose) ++ 10 :: commandProjection command)) := by
    have hstart : Text.of "STATUS=WAITING_FOR_USER_REVIEW_AND_APPROVAL_NOT_EXECUTED\n" =
        statusLine ++ [10] := by decide
    have hfeed : Text.of "\n" = [10] := by decide
    unfold cardText
    rw [hstart, hfeed]
    simp only [List.append_assoc, List.cons_append, List.nil_append]
  have hstatus : ∀ c ∈ statusLine, Text.isLineBreak c = false := by decide
  have hidline : ∀ c ∈ Text.of "CARD_ID=" ++ tokenHex random, Text.isLineBreak c = false := by
    have hstart : ∀ c ∈ Text.of "CARD_ID=", Text.isLineBreak c = false := by decide
    intro c hc
    rcases List.mem_append.mp hc with hc | hc
    · exact hstart c hc
    · have hrange := isHexDigit_of_mem_tokenHex hc
      unfold Text.isLineBreak
      simp only [Bool.or_eq_false_iff, Bool.and_eq_false_iff, decide_eq_false_iff_not,
        beq_eq_false_iff_ne]
      omega
  rw [hcard, Text.splitlines_append (by decide) hrest₂, Text.splitlines_append hsecond hrest₃,
    Text.splitlines_append hthird hprojection, splitlines_commandProjection hcommand,
    List.splitOnP_eq_singleton hstatus, List.splitOnP_eq_singleton hidline,
    List.singleton_append, List.singleton_append]

/-- What stands in front of the command. -/
def beforeCommand (purpose command cardId : Text) : Text :=
  Text.of "STATUS=WAITING_FOR_USER_REVIEW_AND_APPROVAL_NOT_EXECUTED\n" ++
    (Text.of "CARD_ID=" ++ cardId ++ Text.of "\n") ++
    (Text.of "# 목적: " ++ purpose ++ Text.of "\n") ++
    if 10 ∉ command then Text.of "command=" else Text.of "COMMAND_BEGIN\n"

/-- What follows the command. -/
def afterCommand (command : Text) : Text :=
  if 10 ∉ command then Text.of "\n" else Text.of "\nCOMMAND_END\n"

lemma cardText_eq {cardId : Text} : cardText purpose command cardId =
    beforeCommand purpose command cardId ++ (command ++ afterCommand command) := by
  unfold cardText beforeCommand afterCommand commandProjection
  split_ifs
  · simp only [List.append_assoc]
  · simp only [List.append_assoc]

/-- A card can be encoded, and is short enough. -/
lemma exists_requestBytes (hpurpose : purpose.length ≤ 240)
    (hvalid : ∀ c ∈ purpose, c.isValidChar) (hcommand : Taken command) :
    ∃ raw, requestBytes purpose command (tokenHex random) = .ok raw ∧
      Text.decode raw = some (cardText purpose command (tokenHex random)) := by
  have hliteral : ∀ chars, ∀ c ∈ Text.ofChars chars, c.isValidChar := by
    intro chars c hc
    obtain ⟨d, -, rfl⟩ := List.mem_map.mp hc
    exact d.valid
  obtain ⟨rawCommand, hencode, hshort⟩ := hcommand.encoded
  obtain ⟨rawBefore, hbefore, hlengthBefore⟩ := Text.exists_encode
    (t := beforeCommand purpose command (tokenHex random)) (by
      intro c hc
      unfold beforeCommand at hc
      simp only [List.mem_append] at hc
      rcases hc with ((hc | (hc | hc) | hc) | (hc | hc) | hc) | hc
      · exact hliteral _ c hc
      · exact hliteral _ c hc
      · exact hliteral _ c hc
      · exact hliteral _ c hc
      · exact hliteral _ c hc
      · exact hvalid c hc
      · exact hliteral _ c hc
      · split_ifs at hc
        · exact hliteral _ c hc
        · exact hliteral _ c hc)
  obtain ⟨rawAfter, hafter, hlengthAfter⟩ := Text.exists_encode (t := afterCommand command) (by
    intro c hc
    unfold afterCommand at hc
    split_ifs at hc
    · exact hliteral _ c hc
    · exact hliteral _ c hc)
  have hcard : (cardText purpose command (tokenHex random)).encode =
      some (rawBefore ++ (rawCommand ++ rawAfter)) := by
    rw [cardText_eq]
    exact Text.encode_append hbefore (Text.encode_append hencode hafter)
  have hlong : (rawBefore ++ (rawCommand ++ rawAfter)).length ≤ maxRequestBytes := by
    have hstart : (beforeCommand purpose command (tokenHex random)).length ≤ 360 := by
      have hstatus : (Text.of "STATUS=WAITING_FOR_USER_REVIEW_AND_APPROVAL_NOT_EXECUTED\n").length =
          57 := by decide
      have hid : (Text.of "CARD_ID=").length = 8 := by decide
      have hfeed : (Text.of "\n").length = 1 := by decide
      have hline : (Text.of "# 목적: ").length = 6 := by decide
      have hkind : (if 10 ∉ command then Text.of "command=" else
          Text.of "COMMAND_BEGIN\n").length ≤ 14 := by
        split_ifs
        · decide
        · decide
      unfold beforeCommand
      simp only [List.length_append, length_tokenHex, hstatus, hid, hfeed, hline]
      omega
    have hend : (afterCommand command).length ≤ 13 := by
      unfold afterCommand
      split_ifs
      · decide
      · decide
    simp only [List.length_append]
    unfold maxRequestBytes
    unfold maxCommandBytes at hshort
    omega
  refine ⟨_, ?_, Text.decode_of_encode hcard⟩
  unfold requestBytes
  rw [hcard]
  exact if_neg (not_lt.mpr hlong)

/-- A card is pending. -/
lemma isNoPending_card {raw : List UInt8} (hpurpose : 13 ∉ purpose) (hcommand : 13 ∉ command)
    (hraw : Text.decode raw = some (cardText purpose command (tokenHex random))) :
    isNoPending raw = false := by
  have hlines := @splitlines_cardText _ _ random hpurpose hcommand
  have hhead : ∀ chars : List Char, raw = utf8 chars →
      (Text.ofChars chars).splitlines.head? = some statusLine := by
    rintro chars rfl
    rw [Text.decode_of_encode (Text.encode_ofChars chars)] at hraw
    rw [Option.some.inj hraw, hlines, List.head?_cons]
  unfold isNoPending
  rw [hraw, Bool.or_eq_false_iff, Bool.or_eq_false_iff]
  refine ⟨⟨beq_eq_false_iff_ne.mpr fun h => ?_, beq_eq_false_iff_ne.mpr fun h => ?_⟩, ?_⟩
  · exact absurd (hhead _ h) (by decide +kernel)
  · exact absurd (hhead _ h) (by decide +kernel)
  · dsimp only
    rw [hlines, List.head?_cons]
    have hne : (some statusLine == some (Text.of "STATUS=NO_PENDING_ROOT_COMMAND")) = false := by
      decide
    rw [hne, Bool.false_and]

end lines

/-! ## Which cards are unambiguous -/

section unambiguous

variable {purpose command : Text} {random : Vector UInt8 16}

/-- Starts that differ. -/
lemma not_isPrefix_of_isPrefix {s t line : Text} (hs : s <+: line) (hne : s.head? ≠ t.head?)
    (hs₀ : s ≠ []) (ht₀ : t ≠ []) : ¬t <+: line := by
  intro ht
  cases s with
  | nil => exact hs₀ rfl
  | cons c s =>
      cases t with
      | nil => exact ht₀ rfl
      | cons d t =>
          cases line with
          | nil => exact absurd hs (by simp)
          | cons e line =>
              rw [List.cons_prefix_cons] at hs ht
              exact hne (by rw [List.head?_cons, List.head?_cons, hs.1, ht.1])

/-- A line that a command may hold is none of the delimiters, and no other line of a card. -/
lemma Taken.line (h : Taken command) {line : Text}
    (hline : line ∈ command.splitOnP Text.isLineBreak) :
    line ≠ Text.of "COMMAND_BEGIN" ∧ line ≠ Text.of "COMMAND_END" ∧ ¬IsStatusLine line ∧
      ¬IsPurposeLine line := by
  have hallowed : line ≠ [] → isForbidden line = false := fun hne =>
    h.lines line ((Text.mem_splitlines_iff h.returns hne).mpr hline)
  have hforbidden : ∀ start : String,
      start ∈ ["STATUS=", "command=", "PURPOSE=", "# 목적:"] → Text.of start ≠ [] →
      ¬Text.of start <+: line := by
    intro start hstart hne hprefix
    have hline₀ : line ≠ [] := by
      rintro rfl
      exact hne (List.prefix_nil.mp hprefix)
    have hbad : isForbidden line = true := by
      unfold isForbidden
      rw [Bool.or_eq_true, List.any_eq_true]
      exact .inr ⟨start, hstart, List.isPrefixOf_iff_prefix.mpr hprefix⟩
    rw [hallowed hline₀] at hbad
    cases hbad
  refine ⟨?_, ?_, hforbidden "STATUS=" (by simp) (by decide), fun hprefix => ?_⟩
  · rintro rfl
    exact absurd (hallowed (by decide)) (by decide)
  · rintro rfl
    exact absurd (hallowed (by decide)) (by decide)
  · exact hforbidden "# 목적:" (by simp) (by decide)
      ((show Text.of "# 목적:" <+: Text.of "# 목적: " by decide).trans hprefix)

/-- A break of a command that is taken is a line feed or a separator. -/
lemma Taken.feed_or_separator (h : Taken command) {c : Nat} (hc : c ∈ command)
    (hbreak : Text.isLineBreak c = true) : c = 10 ∨ c = 0x2028 ∨ c = 0x2029 := by
  by_cases hfeed : c = 10
  · exact .inl hfeed
  · rcases isFiltered_of_isLineBreak hbreak with hfiltered | hseparator
    · rw [h.filtered c hc hfeed] at hfiltered
      cases hfiltered
    · exact .inr hseparator

/-- A text without separators, whose other breaks are filtered, is one piece. -/
lemma splitOnP_purpose (hpurpose : ∀ c ∈ purpose, isFiltered c = false) :
    ∃ first more, (Text.of "# 목적: " ++ purpose).splitOnP Text.isLineBreak =
        (Text.of "# 목적: " ++ first) :: more ∧
      (more = [] ↔ ¬HasSeparator purpose) ∧ (more = [] → first = purpose) := by
  obtain ⟨first, more, hpieces, happend⟩ := Text.splitOnP_append_of_forall
    (p := Text.isLineBreak) (s := Text.of "# 목적: ") (t := purpose) (by decide)
  refine ⟨first, more, happend, ⟨?_, ?_⟩, ?_⟩
  · rintro rfl (hmem | hmem)
    · exact Text.splitOnP_rest_ne_nil hmem (by decide) hpieces rfl
    · exact Text.splitOnP_rest_ne_nil hmem (by decide) hpieces rfl
  · intro hnone
    rw [List.splitOnP_eq_singleton fun c hc => ?_] at hpieces
    · exact (List.cons.inj hpieces).2.symm
    · refine Bool.eq_false_iff.mpr fun hbreak => ?_
      rcases isFiltered_of_isLineBreak hbreak with hbad | rfl | rfl
      · rw [hpurpose c hc] at hbad
        cases hbad
      · exact hnone (.inl hc)
      · exact hnone (.inr hc)
  · rintro rfl
    by_cases hbreak : ∃ c ∈ purpose, Text.isLineBreak c = true
    · obtain ⟨c, hc, hbreak⟩ := hbreak
      exact absurd rfl (Text.splitOnP_rest_ne_nil hc hbreak hpieces)
    · rw [List.splitOnP_eq_singleton fun c hc =>
        Bool.eq_false_iff.mpr fun h => hbreak ⟨c, hc, h⟩] at hpieces
      exact (List.cons.inj hpieces).1.symm

/-- The lines of a longer command between its delimiters. -/
lemma isCommand_block (hcommand : Taken command) (hfeed : 10 ∈ command) {more : List Text} :
    IsCommand (more ++ commandLines command) command ↔ more = [] ∧ ¬HasSeparator command := by
  have hlines : commandLines command = Text.of "COMMAND_BEGIN" ::
      (command.splitOnP Text.isLineBreak ++ [Text.of "COMMAND_END"]) :=
    if_neg (not_not.mpr hfeed)
  rw [hlines]
  constructor
  · rintro (hsingle | ⟨block, hblock, hbegin, -, htext⟩)
    · have hlength := congrArg List.length hsingle
      simp only [List.length_append, List.length_cons, List.length_nil] at hlength
      omega
    · cases more with
      | cons line more =>
          -- the first delimiter is then a line of the block
          rw [List.cons_append] at hblock
          have hrest : (more ++ Text.of "COMMAND_BEGIN" :: command.splitOnP Text.isLineBreak) ++
              [Text.of "COMMAND_END"] = block ++ [Text.of "COMMAND_END"] := by
            rw [← (List.cons.inj hblock).2]
            simp
          rw [← List.append_cancel_right hrest] at hbegin
          simp at hbegin
      | nil =>
          have hrest := (List.cons.inj hblock).2
          rw [← List.append_cancel_right hrest] at htext
          refine ⟨rfl, fun hseparator => ?_⟩
          have hpiece : ∀ c, Text.isLineBreak c = true → c ≠ 10 → c ∉ command := by
            intro c hbreak hne hmem
            rw [← htext] at hmem
            rcases Text.mem_intercalate hmem with hsame | ⟨line, hline, hc⟩
            · exact hne hsame
            · rw [Text.eq_false_of_mem_splitOnP hline c hc] at hbreak
              cases hbreak
          rcases hseparator with hmem | hmem
          · exact hpiece _ (by decide) (by decide) hmem
          · exact hpiece _ (by decide) (by decide) hmem
  · rintro ⟨rfl, hnone⟩
    refine .inr ⟨command.splitOnP Text.isLineBreak, rfl, fun hmem => ?_, fun hmem => ?_, ?_⟩
    · exact (hcommand.line hmem).1 rfl
    · exact (hcommand.line hmem).2.1 rfl
    · refine Text.intercalate_splitOnP fun c hc hbreak => ?_
      rcases hcommand.feed_or_separator hc hbreak with hsame | rfl | rfl
      · exact hsame
      · exact absurd (.inl hc) hnone
      · exact absurd (.inr hc) hnone

/-- The line of a short command. -/
lemma isCommand_single (hcommand : Taken command) (hfeed : 10 ∉ command) {more : List Text} :
    IsCommand (more ++ commandLines command) command ↔ more = [] ∧ ¬HasSeparator command := by
  obtain ⟨first, rest, hpieces, happend⟩ := Text.splitOnP_append_of_forall
    (p := Text.isLineBreak) (s := Text.of "command=") (t := command) (by decide)
  have hlines : commandLines command = (Text.of "command=" ++ first) :: rest := by
    rw [← happend]
    exact if_pos hfeed
  rw [hlines]
  constructor
  · rintro (hsingle | ⟨block, hblock, -⟩)
    · cases more with
      | cons line more =>
          have hlength := congrArg List.length hsingle
          simp only [List.cons_append, List.length_append, List.length_cons,
            List.length_nil] at hlength
          omega
      | nil =>
          have hrest : rest = [] := (List.cons.inj hsingle).2
          refine ⟨rfl, ?_⟩
          rintro (hmem | hmem)
          · exact Text.splitOnP_rest_ne_nil hmem (by decide) hpieces hrest
          · exact Text.splitOnP_rest_ne_nil hmem (by decide) hpieces hrest
    · -- the last line would be the delimiter
      have hlast := congrArg List.getLast? hblock
      rw [List.getLast?_append_of_ne_nil _ (List.cons_ne_nil _ _), ← List.cons_append,
        List.getLast?_concat] at hlast
      cases rest with
      | nil =>
          have hline : Text.of "command=" ++ first = Text.of "COMMAND_END" := Option.some.inj hlast
          have hhead : some 99 = some 67 := congrArg List.head? hline
          exact absurd hhead (by decide)
      | cons next rest =>
          rw [List.getLast?_cons_cons] at hlast
          have hmem : Text.of "COMMAND_END" ∈ command.splitOnP Text.isLineBreak := by
            rw [hpieces]
            exact List.mem_cons_of_mem _ (List.mem_of_getLast? hlast)
          exact absurd rfl (hcommand.line hmem).2.1
  · rintro ⟨rfl, hnone⟩
    refine .inl ?_
    rw [List.splitOnP_eq_singleton fun c hc => ?_] at hpieces
    · obtain ⟨rfl, rfl⟩ := List.cons.inj hpieces
      rfl
    · refine Bool.eq_false_iff.mpr fun hbreak => ?_
      rcases hcommand.feed_or_separator hc hbreak with rfl | rfl | rfl
      · exact hfeed hc
      · exact hnone (.inl hc)
      · exact hnone (.inr hc)

/-- A card with a purpose and a command that are taken is unambiguous exactly if they have no
separators and no line of a longer command is one for a card id. -/
lemma unambiguous_card_iff (hpurpose : ∀ c ∈ purpose, isFiltered c = false)
    (hcommand : Taken command) :
    Unambiguous (cardText purpose command (tokenHex random)).splitlines command ↔
      ¬HasSeparator purpose ∧ ¬HasSeparator command ∧
        (10 ∈ command → ∀ line ∈ command.splitlines, ¬IsCardIdLine line) := by
  have hreturn : 13 ∉ purpose := fun hmem => absurd (hpurpose 13 hmem) (by decide)
  obtain ⟨first, more, hpieces, hmore, hfirst⟩ := splitOnP_purpose hpurpose
  have hfield : ∀ c ∈ Text.of "command=", Text.isLineBreak c = false := by decide
  have hdelimiter : ∀ line ∈ [Text.of "COMMAND_BEGIN", Text.of "COMMAND_END"],
      ¬IsStatusLine line ∧ ¬IsCardIdLine line ∧ ¬IsPurposeLine line := by
    unfold IsStatusLine IsCardIdLine IsPurposeLine
    decide
  have hcommandLines : IsCommand (more ++ commandLines command) command ↔
      more = [] ∧ ¬HasSeparator command := by
    by_cases hfeed : 10 ∈ command
    · exact isCommand_block hcommand hfeed
    · exact isCommand_single hcommand hfeed
  rw [splitlines_cardText hreturn hcommand.returns, hpieces, List.cons_append]
  constructor
  · rintro ⟨status, cardId, line, rest, hlines, -, -, -, hrest, hothers⟩
    obtain ⟨-, -, -, rfl⟩ : _ ∧ _ ∧ _ ∧ more ++ commandLines command = rest := by
      simpa using hlines
    obtain ⟨hnone, hseparator⟩ := hcommandLines.mp hrest
    refine ⟨hmore.mp hnone, hseparator, fun hfeed line hline hid => ?_⟩
    have hne : line ≠ [] := by
      rintro rfl
      exact absurd (List.prefix_nil.mp hid) (by decide)
    refine (hothers line ?_).2.1 hid
    unfold commandLines
    rw [if_neg (not_not.mpr hfeed)]
    have hmem := (Text.mem_splitlines_iff hcommand.returns hne).mp hline
    simp [hmem]
  · rintro ⟨hnone, hseparator, hids⟩
    have hempty := hmore.mpr hnone
    refine ⟨statusLine, Text.of "CARD_ID=" ++ tokenHex random, Text.of "# 목적: " ++ first,
      more ++ commandLines command, rfl, List.prefix_iff_eq_append.mpr (by decide),
      List.prefix_append _ _, List.prefix_append _ _, hcommandLines.mpr ⟨hempty, hseparator⟩, ?_⟩
    rw [hempty, List.nil_append]
    intro line hline
    unfold commandLines at hline
    by_cases hfeed : 10 ∉ command
    · rw [if_pos hfeed] at hline
      -- the only line starts with the name of the field
      have hbreaks : ∀ c ∈ Text.of "command=" ++ command, Text.isLineBreak c = false := by
        intro c hc
        rcases List.mem_append.mp hc with hc | hc
        · exact hfield c hc
        · refine Bool.eq_false_iff.mpr fun hbreak => ?_
          rcases hcommand.feed_or_separator hc hbreak with rfl | rfl | rfl
          · exact hfeed hc
          · exact hseparator (.inl hc)
          · exact hseparator (.inr hc)
      rw [List.splitOnP_eq_singleton hbreaks, List.mem_singleton] at hline
      have hprefix : Text.of "command=" <+: line := by
        rw [hline]
        exact List.prefix_append _ _
      exact ⟨not_isPrefix_of_isPrefix hprefix (by decide) (by decide) (by decide),
        not_isPrefix_of_isPrefix hprefix (by decide) (by decide) (by decide),
        not_isPrefix_of_isPrefix hprefix (by decide) (by decide) (by decide)⟩
    · rw [if_neg hfeed] at hline
      rcases List.mem_cons.mp hline with rfl | hline
      · exact hdelimiter _ (by decide)
      rcases List.mem_append.mp hline with hline | hline
      · obtain ⟨-, -, hstatus, hpurposeLine⟩ := hcommand.line hline
        refine ⟨hstatus, fun hid => ?_, hpurposeLine⟩
        have hne : line ≠ [] := by
          rintro rfl
          exact absurd (List.prefix_nil.mp hid) (by decide)
        exact hids (not_not.mp hfeed) line
          ((Text.mem_splitlines_iff hcommand.returns hne).mpr hline) hid
      · rw [List.mem_singleton.mp hline]
        exact hdelimiter _ (by decide)

end unambiguous

/-- The card is what is meant exactly for a clear purpose and command. -/
theorem publish_unambiguous (purpose command : Text) (random : Vector UInt8 16) :
    CardKept purpose command random ↔ Clear purpose command := by
  unfold CardKept Clear publishedCard
  cases hp : safeSingleLine purpose "purpose" 240 with
  | error e =>
      obtain ⟨code, rfl⟩ := safeSingleLine_error hp
      exact iff_of_true ⟨code, rfl⟩ (.inl ⟨_, rfl⟩)
  | ok p =>
      obtain ⟨rfl, hlength, hfiltered⟩ := safeSingleLine_ok hp
      cases hc : safeCommand command with
      | error e =>
          rcases safeCommand_error hc with ⟨code, rfl⟩ | ⟨rfl, hne, hstrip, hencode⟩
          · refine iff_of_true ⟨code, rfl⟩ (.inr ?_)
            by_cases hblank : command = [] ∨ command ≠ command.strip
            · rcases hblank with hblank | hblank
              · exact .inl hblank
              · exact .inr (.inl hblank)
            · refine .inr (.inr ⟨fun hencode => ?_, .inl ⟨_, rfl⟩⟩)
              unfold safeCommand at hc
              rw [if_neg hblank, hencode] at hc
              cases hc
          · refine iff_of_false ?_ ?_
            · rintro ⟨code, hcode⟩
              cases hcode
            · rintro (⟨e, he⟩ | hblank | hblank | ⟨hsome, -⟩)
              · cases he
              · exact hne hblank
              · exact hblank hstrip
              · exact hsome hencode
      | ok c =>
          obtain ⟨rfl, htaken⟩ := safeCommand_ok hc
          obtain ⟨raw, hraw, hdecode⟩ := @exists_requestBytes _ _ random hlength
            (fun c hc => isValidChar_of_isFiltered (hfiltered c hc)) htaken
          have hreturn : 13 ∉ p := fun hmem => absurd (hfiltered 13 hmem) (by decide)
          have hpending := @isNoPending_card _ _ random _ hreturn htaken.returns hdecode
          have hiff := @unambiguous_card_iff _ _ random hfiltered htaken
          show (match requestBytes p c (tokenHex random) with
            | .error e => ∃ code, e = Raised.rootReview code
            | .ok raw => _) ↔ _
          rw [hraw]
          constructor
          · rintro ⟨-, text, htext, hunambiguous⟩
            rw [hdecode] at htext
            cases htext
            obtain ⟨raw', hencode, -⟩ := htaken.encoded
            exact .inr (.inr (.inr ⟨by rw [hencode]; exact nofun, .inr (hiff.mp hunambiguous)⟩))
          · rintro (⟨e, he⟩ | hblank | hblank | ⟨-, ⟨e, he⟩ | hclear⟩)
            · cases he
            · exact absurd hblank htaken.nonempty
            · exact absurd htaken.stripped hblank
            · cases he
            · exact ⟨hpending, _, hdecode, hiff.mpr hclear⟩

/-- A line separator in the purpose makes two lines for the status, a command may hold a line for a
card id, and one that cannot be encoded raises something else. -/
theorem card_ambiguous :
    ¬CardKept (Text.of "check\u2028STATUS=APPROVED") (Text.of "id") (.replicate 16 0) ∧
      ¬CardKept (Text.of "check") (Text.of "id\nCARD_ID=0") (.replicate 16 0) ∧
      ¬CardKept (Text.of "check") [0xd800] (.replicate 16 0) := by
  have hambiguous : ∀ purpose command (random : Vector UInt8 16),
      safeSingleLine purpose "purpose" 240 = .ok purpose →
      safeCommand command = .ok command →
      (HasSeparator purpose ∨ 10 ∈ command ∧ ∃ line ∈ command.splitlines, IsCardIdLine line) →
      ¬CardKept purpose command random := by
    intro purpose command random hp hc hbad hkept
    obtain ⟨-, hlength, hfiltered⟩ := safeSingleLine_ok hp
    obtain ⟨-, htaken⟩ := safeCommand_ok hc
    obtain ⟨raw, hraw, hdecode⟩ := @exists_requestBytes _ _ random hlength
      (fun c hc => isValidChar_of_isFiltered (hfiltered c hc)) htaken
    have hcard : publishedCard purpose command random = .ok raw := by
      unfold publishedCard
      rw [hp, hc]
      exact hraw
    unfold CardKept at hkept
    rw [hcard] at hkept
    obtain ⟨-, text, htext, hunambiguous⟩ := hkept
    rw [hdecode] at htext
    cases htext
    obtain ⟨hnone, -, hids⟩ := (unambiguous_card_iff hfiltered htaken).mp hunambiguous
    rcases hbad with hseparator | ⟨hfeed, line, hline, hid⟩
    · exact hnone hseparator
    · exact hids hfeed line hline hid
  refine ⟨hambiguous _ _ _ (by decide) (by decide) (.inl (.inl (by decide))),
    hambiguous _ _ _ (by decide) (by decide) (.inr ⟨by decide,
      Text.of "CARD_ID=0", by decide, List.prefix_iff_eq_append.mpr (by decide)⟩), ?_⟩
  rintro ⟨code, hcode⟩
  cases hcode

end AgentRuntimeOps.RootReview
