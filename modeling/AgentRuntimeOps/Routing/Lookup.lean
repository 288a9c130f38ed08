import Mathlib
import AgentRuntimeOps.Routing.Basic

/-!
# Looking bindings up

`get_runtime_binding` looks for a target among three kinds of names.  No text is a name of two
kinds, so a target names at most one binding.
-/

namespace AgentRuntimeOps.Routing

open AgentRuntimeOps.Lib

/-! ## Plain texts -/

/-- A character of names. -/
def isPlain (c : Char) : Bool := c.isLower || c.isDigit || c == '_' || c == '-' || c == '.'

lemma isPlain_iff {c : Char} : isPlain c = true ↔ (97 ≤ c.toNat ∧ c.toNat ≤ 122) ∨
    (48 ≤ c.toNat ∧ c.toNat ≤ 57) ∨ c = '_' ∨ c = '-' ∨ c = '.' := by
  have hlower : c.isLower = true ↔ 97 ≤ c.toNat ∧ c.toNat ≤ 122 := by
    simp only [Char.isLower, Bool.and_eq_true, decide_eq_true_eq, ge_iff_le, UInt32.le_iff_toNat_le]
    exact Iff.rfl
  have hdigit : c.isDigit = true ↔ 48 ≤ c.toNat ∧ c.toNat ≤ 57 := Char.isDigit_iff_toNat
  unfold isPlain
  simp only [Bool.or_eq_true, beq_iff_eq, hlower, hdigit]
  tauto

/-- A character of names is neither a blank nor a capital. -/
lemma lowerChar_of_isPlain {c : Char} (h : isPlain c = true) :
    isSpace c = false ∧ lowerChar c = c := by
  have hcode : (97 ≤ c.toNat ∧ c.toNat ≤ 122) ∨ (48 ≤ c.toNat ∧ c.toNat ≤ 57) ∨
      c.toNat = 95 ∨ c.toNat = 45 ∨ c.toNat = 46 := by
    rcases isPlain_iff.mp h with h | h | rfl | rfl | rfl
    · exact .inl h
    · exact .inr (.inl h)
    · exact .inr (.inr (.inl rfl))
    · exact .inr (.inr (.inr (.inl rfl)))
    · exact .inr (.inr (.inr (.inr rfl)))
  constructor
  · rw [Bool.eq_false_iff]
    intro hspace
    simp only [isSpace, Bool.or_eq_true, Bool.and_eq_true, decide_eq_true_eq, beq_iff_eq] at hspace
    omega
  · unfold lowerChar
    rw [if_neg (by omega)]
    unfold Char.toLower
    refine dif_neg fun hupper => ?_
    simp only [ge_iff_le, UInt32.le_iff_toNat_le] at hupper
    have hlow : 65 ≤ c.toNat := hupper.1
    have hhigh : c.toNat ≤ 90 := hupper.2
    omega

lemma dropRight_of_getLast? {drop : Char → Bool} {text : List Char}
    (h : ∀ c ∈ text.getLast?, drop c = false) : dropRight drop text = text := by
  unfold dropRight
  obtain rfl | ⟨front, c, rfl⟩ := List.eq_nil_or_concat' text
  · rfl
  · have hc : drop c = false := h c (by simp)
    rw [List.reverse_append, List.reverse_singleton, List.singleton_append,
      List.dropWhile_cons_of_neg (by simp [hc]), List.reverse_cons, List.reverse_reverse]

/-- What is stripped is a part of the text. -/
lemma strip_of_isPlain {text : List Char} (h : ∀ c ∈ text, isPlain c = true) :
    strip text = text := by
  unfold strip
  have hdrop : text.dropWhile isSpace = text := by
    cases text with
    | nil => rfl
    | cons c rest =>
        exact List.dropWhile_cons_of_neg
          (by simp [(lowerChar_of_isPlain (h c List.mem_cons_self)).1])
  rw [hdrop]
  exact dropRight_of_getLast? fun c hc => (lowerChar_of_isPlain (h c (List.mem_of_getLast? hc))).1

/-- A name is looked up as it is. -/
lemma normalize_of_isPlain {text : String} (h : ∀ c ∈ text.toList, isPlain c = true)
    (hlast : text.toList.getLast? ≠ some '.') : normalize text = text.toList := by
  unfold normalize
  rw [strip_of_isPlain h, List.map_congr_left fun c hc => (lowerChar_of_isPlain (h c hc)).2,
    List.map_id']
  refine dropRight_of_getLast? fun c hc => beq_eq_false_iff_ne.mpr ?_
  rintro rfl
  exact hlast hc

/-! ## The three kinds of names -/

/-- An account has no dot, and at most 32 characters. -/
lemma isLinuxAccount_chars {text : List Char} (h : isLinuxAccount text = true) :
    (∀ c ∈ text, isPlain c = true) ∧ '.' ∉ text ∧ text.length ≤ 32 := by
  cases text with
  | nil => cases h
  | cons c rest =>
      unfold isLinuxAccount at h
      simp only [Bool.and_eq_true, decide_eq_true_eq, List.all_eq_true] at h
      obtain ⟨⟨hfirst, hlength⟩, hrest⟩ := h
      refine ⟨fun d hd => ?_, fun hdot => ?_, by rw [List.length_cons]; omega⟩
      · unfold isPlain
        obtain rfl | hd := List.mem_cons.mp hd
        · rw [hfirst]
          rfl
        · rw [hrest d hd]
          rfl
      · obtain rfl | hdot := List.mem_cons.mp hdot
        · cases hfirst
        · cases hrest '.' hdot

/-- The pieces of a text have its other characters. -/
lemma flatten_splitOn (sep : Char) (text : List Char) :
    (text.splitOn sep).flatten = text.filter (· ≠ sep) := by
  rw [List.splitOn_eq_splitOnP]
  induction text with
  | nil => rfl
  | cons c rest ih =>
      have hne := List.splitOnP_ne_nil (· == sep) rest
      rw [List.splitOnP_cons_eq_if_modifyHead]
      by_cases hc : c = sep
      · rw [if_pos (beq_iff_eq.mpr hc), List.flatten_cons, List.nil_append, ih,
          List.filter_cons_of_neg (by simp [hc])]
      · rw [if_neg (by simp [hc]), List.filter_cons_of_pos (by simp [hc]), ← ih]
        obtain ⟨first, others, hpieces⟩ := List.exists_cons_of_ne_nil hne
        rw [hpieces]
        rfl

/-- A character that does not cut is in a piece. -/
lemma exists_mem_splitOn {sep c : Char} {text : List Char} (hc : c ∈ text) (hne : c ≠ sep) :
    ∃ piece ∈ text.splitOn sep, c ∈ piece := by
  rw [← List.mem_flatten, flatten_splitOn]
  exact List.mem_filter.mpr ⟨hc, decide_eq_true hne⟩

/-- A digit of base 16, as `str` writes it. -/
def isHex (c : Char) : Bool := c.isDigit || ('a' ≤ c && c ≤ 'f')

/-- A UUID is cut into five groups. -/
lemma exists_groups {text : List Char} (h : isInstanceId text = true) : ∃ a b c d e : List Char,
    text = a ++ '-' :: (b ++ '-' :: (c ++ '-' :: (d ++ '-' :: e))) ∧
      (a.length = 8 ∧ b.length = 4 ∧ c.length = 4 ∧ d.length = 4 ∧ e.length = 12) ∧
      (∀ x ∈ a ++ b ++ c ++ d ++ e, isHex x = true) := by
  unfold isInstanceId at h
  simp only [Bool.and_eq_true, beq_iff_eq, List.all_eq_true] at h
  obtain ⟨hlengths, hhex⟩ := h
  have hjoined : ['-'].intercalate (text.splitOn '-') = text := List.intercalate_splitOn '-'
  generalize text.splitOn '-' = groups at hlengths hhex hjoined
  have hfirst : groups.length = 5 := (List.length_map _).symm.trans (congrArg List.length hlengths)
  obtain ⟨a, groups, rfl⟩ := List.exists_cons_of_length_eq_add_one hfirst
  obtain ⟨b, c, d, e, rfl⟩ := List.length_eq_four.mp (Nat.succ.inj hfirst)
  simp only [List.map_cons, List.map_nil, List.cons.injEq, and_true] at hlengths
  refine ⟨a, b, c, d, e, ?_, hlengths, fun x hx => ?_⟩
  · rw [← hjoined]
    simp [List.intercalate_cons_cons]
  · simp only [List.mem_append, or_assoc] at hx
    rcases hx with hx | hx | hx | hx | hx
    · exact hhex a (by simp) x hx
    · exact hhex b (by simp) x hx
    · exact hhex c (by simp) x hx
    · exact hhex d (by simp) x hx
    · exact hhex e (by simp) x hx

lemma isHex_iff {c : Char} : isHex c = true ↔
    (48 ≤ c.toNat ∧ c.toNat ≤ 57) ∨ (97 ≤ c.toNat ∧ c.toNat ≤ 102) := by
  unfold isHex
  simp only [Bool.or_eq_true, Bool.and_eq_true, decide_eq_true_eq, Char.isDigit_iff_toNat,
    Char.le_def, UInt32.le_iff_toNat_le]
  exact Iff.rfl

/-- A UUID has no dot, and 36 characters. -/
lemma isInstanceId_chars {text : List Char} (h : isInstanceId text = true) :
    (∀ c ∈ text, isPlain c = true) ∧ '.' ∉ text ∧ text.length = 36 := by
  obtain ⟨a, b, c, d, e, rfl, ⟨ha, hb, hc, hd, he⟩, hhex⟩ := exists_groups h
  have hchars : ∀ x ∈ a ++ '-' :: (b ++ '-' :: (c ++ '-' :: (d ++ '-' :: e))),
      x = '-' ∨ isHex x = true := by
    intro x hx
    simp only [List.mem_append, List.mem_cons] at hx
    simp only [List.mem_append] at hhex
    have hcase := hhex x
    tauto
  refine ⟨fun x hx => ?_, fun hdot => absurd (hchars '.' hdot) (by decide), ?_⟩
  · rw [isPlain_iff]
    rcases hchars x hx with rfl | hdigit
    · exact .inr (.inr (.inr (.inl rfl)))
    · have hcode := isHex_iff.mp hdigit
      omega
  · simp only [List.length_append, List.length_cons, ha, hb, hc, hd, he]

/-- A host name has a dot, which is not its last character. -/
lemma isHostName_chars {text : List Char} (h : isHostName text = true) :
    (∀ c ∈ text, isPlain c = true) ∧ '.' ∈ text ∧ text.getLast? ≠ some '.' := by
  unfold isHostName at h
  simp only [Bool.and_eq_true, decide_eq_true_eq, List.all_eq_true, Option.any_eq_true] at h
  obtain ⟨⟨⟨-, -, hcount⟩, hlabels⟩, last, hlast, ⟨hlength, -⟩, hletters⟩ := h
  refine ⟨fun c hc => ?_, ?_, fun hdot => ?_⟩
  · by_cases hdot : c = '.'
    · rw [hdot]
      rfl
    · obtain ⟨label, hlabel, hmem⟩ := exists_mem_splitOn hc hdot
      rw [← List.dropLast_append_getLast? last hlast, List.mem_append, List.mem_singleton] at hlabel
      unfold isPlain
      obtain hlabel | rfl := hlabel
      · have hchars := hlabels label hlabel
        simp only [isHostLabel, Bool.and_eq_true, List.all_eq_true] at hchars
        have hchar := hchars.1.1.2 c hmem
        simp only [Bool.or_eq_true] at hchar ⊢
        tauto
      · rw [hletters c hmem]
        rfl
  · by_contra hnot
    have hone : text.splitOn '.' = [text] := by
      rw [List.splitOn_eq_splitOnP]
      exact List.splitOnP_eq_singleton fun c hc =>
        beq_eq_false_iff_ne.mpr fun heq => hnot (heq ▸ hc)
    rw [hone] at hcount
    exact absurd hcount (by simp)
  · obtain ⟨front, rfl⟩ := List.getLast?_eq_some_iff.mp hdot
    rw [List.splitOn_eq_splitOnP, List.splitOnP_append_cons front [] (by decide)] at hlast
    have hnil : last = [] := by simpa using hlast.symm
    rw [hnil] at hlength
    exact absurd hlength (by decide)

/-! ## Lookups -/

section lookups

variable {bindings : List RuntimeBinding} {binding other : RuntimeBinding} {target : String}

/-- The target is a name of the binding. -/
def RuntimeBinding.named (binding : RuntimeBinding) (target : String) : Bool :=
  String.ofList (normalize target) ∈
    [binding.instanceId, binding.linuxAccount, binding.publicHost]

/-- What a binding that is taken has as names. -/
structure RuntimeBinding.Names (binding : RuntimeBinding) : Prop where
  instanceId : isInstanceId binding.instanceId.toList = true
  linuxAccount : isLinuxAccount binding.linuxAccount.toList = true
  publicHost : atEnd isHostName binding.publicHost.toList = true

lemma RuntimeBinding.names_of_accepted (h : binding.accepted = true) : binding.Names := by
  unfold RuntimeBinding.accepted at h
  simp only [Bool.and_eq_true] at h
  obtain ⟨⟨⟨⟨⟨⟨⟨⟨-, -⟩, hid⟩, haccount⟩, hhost⟩, -⟩, -⟩, -⟩, -⟩ := h
  exact ⟨hid, haccount, hhost⟩

/-- A host has a dot, also with a line feed behind it. -/
lemma RuntimeBinding.Names.dot_mem (h : binding.Names) : '.' ∈ binding.publicHost.toList := by
  have hhost := h.publicHost
  unfold atEnd at hhost
  simp only [Bool.or_eq_true, Bool.and_eq_true] at hhost
  obtain hname | ⟨-, hname⟩ := hhost
  · exact (isHostName_chars hname).2.1
  · exact List.mem_of_mem_dropLast (isHostName_chars hname).2.1

/-- No name of one binding is a name of another kind of any binding. -/
lemma RuntimeBinding.Names.disjoint (h : binding.Names) (h' : other.Names) :
    binding.instanceId ≠ other.linuxAccount ∧ binding.instanceId ≠ other.publicHost ∧
      binding.linuxAccount ≠ other.publicHost := by
  obtain ⟨-, hdot, hlength⟩ := isInstanceId_chars h.instanceId
  have hdot' := h'.dot_mem
  refine ⟨fun heq => ?_, fun heq => hdot (heq ▸ hdot'), fun heq => ?_⟩
  · have hshort := (isLinuxAccount_chars h'.linuxAccount).2.2
    rw [heq] at hlength
    omega
  · exact (isLinuxAccount_chars h.linuxAccount).2.1 (heq ▸ hdot')

/-- A target names at most one binding. -/
theorem named_unique (h : Loadable bindings) (hmem : binding ∈ bindings)
    (hmem' : other ∈ bindings) (hnamed : binding.named target = true)
    (hnamed' : other.named target = true) : binding = other := by
  obtain ⟨hids, haccounts, hhosts, -⟩ := h.2
  have hnames := RuntimeBinding.names_of_accepted (h.1 _ hmem)
  have hnames' := RuntimeBinding.names_of_accepted (h.1 _ hmem')
  obtain ⟨hd₁, hd₂, hd₃⟩ := hnames.disjoint hnames'
  obtain ⟨hd₁', hd₂', hd₃'⟩ := hnames'.disjoint hnames
  simp only [RuntimeBinding.named, decide_eq_true_eq, List.mem_cons, List.not_mem_nil,
    or_false] at hnamed hnamed'
  generalize String.ofList (normalize target) = name at hnamed hnamed'
  rcases hnamed with rfl | rfl | rfl
  · rcases hnamed' with heq | heq | heq
    · exact List.inj_on_of_nodup_map hids hmem hmem' heq
    · exact absurd heq hd₁
    · exact absurd heq hd₂
  · rcases hnamed' with heq | heq | heq
    · exact absurd heq.symm hd₁'
    · exact List.inj_on_of_nodup_map haccounts hmem hmem' heq
    · exact absurd heq hd₃
  · rcases hnamed' with heq | heq | heq
    · exact absurd heq.symm hd₂'
    · exact absurd heq.symm hd₃'
    · exact List.inj_on_of_nodup_map hhosts hmem hmem' heq

/-- A binding is found by each of its names. -/
lemma getRuntimeBinding_of_named (h : Loadable bindings) (hmem : binding ∈ bindings)
    (hnamed : binding.named target = true) : getRuntimeBinding target bindings = .ok binding := by
  have hsome : (bindings.find? fun binding => binding.named target).isSome = true :=
    List.find?_isSome.mpr ⟨binding, hmem, hnamed⟩
  obtain ⟨found, hfound⟩ := Option.isSome_iff_exists.mp hsome
  have hfoundNamed := List.find?_some hfound
  have heq : found = binding :=
    named_unique h (List.mem_of_find?_eq_some hfound) hmem hfoundNamed hnamed
  unfold getRuntimeBinding
  dsimp only
  rw [show (bindings.find? fun binding => decide (String.ofList (normalize target) ∈
    [binding.instanceId, binding.linuxAccount, binding.publicHost])) = some found from hfound, heq]

/-- What is found has the target as a name. -/
lemma named_of_getRuntimeBinding (h : getRuntimeBinding target bindings = .ok binding) :
    binding.named target = true := by
  unfold getRuntimeBinding at h
  dsimp only at h
  split at h
  case h_1 found hfound =>
    cases h
    have hfoundNamed := List.find?_some hfound
    exact hfoundNamed
  case h_2 => cases h

end lookups

end AgentRuntimeOps.Routing
