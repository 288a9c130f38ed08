import AgentRuntimeOps.Lib.Text

/-!
# Shell words

`shlex.split`: the words of a command line in which quotes and backslashes keep blanks together.
Inside double quotes a backslash stays, except in front of a double quote or a backslash.
-/

namespace AgentRuntimeOps.Lib

namespace Text

/-- What the reader is inside of, with the characters of the word so far. -/
inductive WordState
  | between
  | word (token : Text)
  | quoted (quote : Nat) (token : Text)
  | escaped (quote : Option Nat) (token : Text)

/-- The blanks that separate words. -/
def isShellSpace (c : Nat) : Bool := c == 32 || c == 9 || c == 13 || c == 10

def isQuote (c : Nat) : Bool := c == 34 || c == 39

/-- The words from here on; the error is the text of the `ValueError`. -/
def shellWordsFrom : WordState → Text → Except String (List Text)
  | .between, [] => .ok []
  | .word token, [] => .ok [token]
  | .quoted _ _, [] => .error "No closing quotation"
  | .escaped _ _, [] => .error "No escaped character"
  | .between, c :: rest =>
      if isShellSpace c then shellWordsFrom .between rest
      else if c = 92 then shellWordsFrom (.escaped none []) rest
      else if isQuote c then shellWordsFrom (.quoted c []) rest
      else shellWordsFrom (.word [c]) rest
  | .word token, c :: rest =>
      if isShellSpace c then (shellWordsFrom .between rest).map (token :: ·)
      else if isQuote c then shellWordsFrom (.quoted c token) rest
      else if c = 92 then shellWordsFrom (.escaped none token) rest
      else shellWordsFrom (.word (token ++ [c])) rest
  | .quoted quote token, c :: rest =>
      if c = quote then shellWordsFrom (.word token) rest
      else if c = 92 ∧ quote = 34 then shellWordsFrom (.escaped (some quote) token) rest
      else shellWordsFrom (.quoted quote (token ++ [c])) rest
  | .escaped none token, c :: rest => shellWordsFrom (.word (token ++ [c])) rest
  | .escaped (some quote) token, c :: rest =>
      if c ≠ 92 ∧ c ≠ quote then shellWordsFrom (.quoted quote (token ++ [92, c])) rest
      else shellWordsFrom (.quoted quote (token ++ [c])) rest

attribute [local simp] shellWordsFrom in
/-- `shlex.split(line)` -/
def shellWords (line : Text) : Except String (List Text) := shellWordsFrom .between line

/-- Neither a blank, nor a quote, nor a backslash. -/
def isBare (c : Nat) : Bool := !isShellSpace c && !isQuote c && c != 92

lemma shellWordsFrom_word_bare {s : Text} (hs : ∀ c ∈ s, isBare c = true) (token rest : Text) :
    shellWordsFrom (.word token) (s ++ rest) = shellWordsFrom (.word (token ++ s)) rest := by
  induction s generalizing token with
  | nil => rw [List.nil_append, List.append_nil]
  | cons c s ih =>
      have hc := hs c List.mem_cons_self
      simp only [isBare, Bool.and_eq_true, Bool.not_eq_true', bne_iff_ne] at hc
      rw [List.cons_append, shellWordsFrom, if_neg (by simp [hc.1.1]), if_neg (by simp [hc.1.2]),
        if_neg hc.2, ih (fun c hc => hs c (List.mem_cons_of_mem _ hc)), List.append_assoc,
        List.singleton_append]

/-- A word may start with any bare characters. -/
lemma shellWordsFrom_between_bare {s : Text} (hs : ∀ c ∈ s, isBare c = true) (hne : s ≠ [])
    (rest : Text) :
    shellWordsFrom .between (s ++ rest) = shellWordsFrom (.word s) rest := by
  obtain ⟨c, s, rfl⟩ := List.exists_cons_of_ne_nil hne
  have hc := hs c List.mem_cons_self
  simp only [isBare, Bool.and_eq_true, Bool.not_eq_true', bne_iff_ne] at hc
  rw [List.cons_append, shellWordsFrom, if_neg (by simp [hc.1.1]), if_neg hc.2,
    if_neg (by simp [hc.1.2]),
    shellWordsFrom_word_bare fun c hc => hs c (List.mem_cons_of_mem _ hc)]
  rfl

/-- Inside double quotes, up to the next quote or backslash. -/
lemma shellWordsFrom_quoted_of_forall {s : Text} (hs : ∀ c ∈ s, c ≠ 34 ∧ c ≠ 92)
    (token rest : Text) :
    shellWordsFrom (.quoted 34 token) (s ++ rest) =
      shellWordsFrom (.quoted 34 (token ++ s)) rest := by
  induction s generalizing token with
  | nil => rw [List.nil_append, List.append_nil]
  | cons c s ih =>
      obtain ⟨hquote, hslash⟩ := hs c List.mem_cons_self
      rw [List.cons_append, shellWordsFrom, if_neg hquote, if_neg fun h => hslash h.1,
        ih (fun c hc => hs c (List.mem_cons_of_mem _ hc)), List.append_assoc, List.singleton_append]

/-- A backslash in front of anything else stays. -/
lemma shellWordsFrom_quoted_backslash {c : Nat} (hquote : c ≠ 34) (hslash : c ≠ 92)
    (token rest : Text) :
    shellWordsFrom (.quoted 34 token) (92 :: c :: rest) =
      shellWordsFrom (.quoted 34 (token ++ [92, c])) rest := by
  rw [shellWordsFrom, if_neg (by decide), if_pos ⟨rfl, rfl⟩, shellWordsFrom,
    if_pos ⟨hslash, hquote⟩]

lemma shellWordsFrom_close (token rest : Text) :
    shellWordsFrom (.quoted 34 token) (34 :: rest) = shellWordsFrom (.word token) rest := by
  rw [shellWordsFrom, if_pos rfl]

lemma shellWordsFrom_open (token rest : Text) :
    shellWordsFrom (.word token) (34 :: rest) = shellWordsFrom (.quoted 34 token) rest := by
  rw [shellWordsFrom, if_neg (by decide), if_pos (by decide)]

lemma shellWordsFrom_blank (token rest : Text) :
    shellWordsFrom (.word token) (32 :: rest) =
      (shellWordsFrom .between rest).map (token :: ·) := by
  rw [shellWordsFrom, if_pos (by decide)]

end Text

end AgentRuntimeOps.Lib
