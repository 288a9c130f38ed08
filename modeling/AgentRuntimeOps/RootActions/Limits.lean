import AgentRuntimeOps.Lib.JsonSize
import AgentRuntimeOps.RootActions.Receipts

/-!
# Texts and receipts within their limits

Identifiers, digests and timestamps are short, so the receipts that are made of them stay far below
the byte limit of a receipt, whichever encoder writes them, and pass the checks of `receipts.py`.
-/

namespace AgentRuntimeOps.RootActions

open AgentRuntimeOps.Lib

/-! ## Short texts -/

/-- A text of at most 128 bytes. -/
def IsShort (s : String) : Prop := (utf8 s.toList).length ≤ 128

instance (s : String) : Decidable (IsShort s) := inferInstanceAs (Decidable (_ ≤ _))

lemma isShort_of_printable {s : String} (h : s.toList.all isPrintableAscii = true)
    (hlen : s.toList.length ≤ 128) : IsShort s := by
  unfold IsShort
  rwa [utf8_length_of_printable h]

lemma isShort_of_isSafeId {s : String} (h : isSafeId s = true) : IsShort s :=
  isShort_of_printable (isSafeId_printable h) (isSafeId_chars h).2

/-- A range of printable characters. -/
lemma isPrintableAscii_of_between {a b c : Char} (ha : 0x20 ≤ a.toNat) (hb : b.toNat < 0x7f)
    (h₁ : a ≤ c) (h₂ : c ≤ b) : isPrintableAscii c = true := by
  rw [Char.le_def, UInt32.le_iff_toNat_le] at h₁ h₂
  change a.toNat ≤ c.toNat at h₁
  change c.toNat ≤ b.toNat at h₂
  exact decide_eq_true (by omega)

lemma isPrintableAscii_of_isDigit {c : Char} (h : c.isDigit = true) : isPrintableAscii c = true := by
  apply isPrintableAscii_of_isIdChar
  unfold isIdChar isLowerAlnum
  rw [h]
  simp

lemma isPrintableAscii_of_isHexDigit {c : Char} (h : isHexDigit c = true) :
    isPrintableAscii c = true := by
  unfold isHexDigit at h
  simp only [Bool.or_eq_true, Bool.and_eq_true, decide_eq_true_eq] at h
  rcases h with hdigit | ⟨hlow, hhigh⟩
  · exact isPrintableAscii_of_isDigit hdigit
  · exact isPrintableAscii_of_between (by decide) (by decide) hlow hhigh

lemma isDigest_printable {s : String} (h : isDigest s = true) :
    s.toList.all isPrintableAscii = true ∧ s.toList.length = 71 := by
  unfold isDigest at h
  simp only [Bool.and_eq_true, beq_iff_eq, decide_eq_true_eq] at h
  obtain ⟨⟨htake, hdrop⟩, hlen⟩ := h
  refine ⟨?_, hlen⟩
  rw [← List.take_append_drop 7 s.toList, List.all_append, htake, Bool.and_eq_true]
  refine ⟨by decide, ?_⟩
  rw [List.all_eq_true] at hdrop ⊢
  exact fun c hc => isPrintableAscii_of_isHexDigit (hdrop c hc)

lemma isShort_of_isDigest {s : String} (h : isDigest s = true) : IsShort s := by
  obtain ⟨hprintable, hlen⟩ := isDigest_printable h
  exact isShort_of_printable hprintable (by omega)

/-- A timestamp has twenty printable characters. -/
lemma isTimestamp_printable {s : String} (h : isTimestamp s = true) :
    s.toList.all isPrintableAscii = true ∧ s.toList.length = 20 := by
  unfold isTimestamp at h
  split at h
  · next a b y₁ y₂ s₁ m₁ m₂ s₂ d₁ d₂ t h₁ h₂ s₃ i₁ i₂ s₄ c₁ c₂ z heq =>
    rw [heq]
    refine ⟨?_, rfl⟩
    simp only [Bool.and_eq_true, Bool.or_eq_true, beq_iff_eq, decide_eq_true_eq] at h
    simp only [List.all_cons, List.all_nil, Bool.and_true, Bool.and_eq_true]
    obtain ⟨⟨⟨⟨⟨⟨⟨⟨⟨⟨⟨⟨⟨⟨rfl, rfl⟩, hy₁⟩, hy₂⟩, rfl⟩, hm⟩, rfl⟩, hd⟩, rfl⟩, hh⟩, rfl⟩, hi⟩, rfl⟩, hc⟩,
      rfl⟩ := h
    have hrange : ∀ {a b c : Char}, 0x20 ≤ a.toNat → b.toNat < 0x7f → a ≤ c → c ≤ b →
      isPrintableAscii c = true := isPrintableAscii_of_between
    refine ⟨by decide, by decide, isPrintableAscii_of_isDigit hy₁, isPrintableAscii_of_isDigit hy₂,
      by decide, ?_, ?_, by decide, ?_, ?_, by decide, ?_, ?_, by decide, ?_, ?_, by decide, ?_, ?_,
      by decide⟩
    · rcases hm with ⟨⟨rfl, -⟩, -⟩ | ⟨⟨rfl, -⟩, -⟩
      · decide
      · decide
    · rcases hm with ⟨⟨-, hlow⟩, hhigh⟩ | ⟨⟨-, hlow⟩, hhigh⟩
      · exact hrange (by decide) (by decide) hlow hhigh
      · exact hrange (by decide) (by decide) hlow hhigh
    · rcases hd with (⟨⟨rfl, -⟩, -⟩ | ⟨rfl | rfl, -⟩) | ⟨rfl, -⟩
      · decide
      · decide
      · decide
      · decide
    · rcases hd with (⟨⟨-, hlow⟩, hhigh⟩ | ⟨-, hdigit⟩) | ⟨-, rfl | rfl⟩
      · exact hrange (by decide) (by decide) hlow hhigh
      · exact isPrintableAscii_of_isDigit hdigit
      · decide
      · decide
    · rcases hh with ⟨rfl | rfl, -⟩ | ⟨⟨rfl, -⟩, -⟩
      · decide
      · decide
      · decide
    · rcases hh with ⟨-, hdigit⟩ | ⟨⟨-, hlow⟩, hhigh⟩
      · exact isPrintableAscii_of_isDigit hdigit
      · exact hrange (by decide) (by decide) hlow hhigh
    · exact hrange (by decide) (by decide) hi.1.1 hi.1.2
    · exact isPrintableAscii_of_isDigit hi.2
    · exact hrange (by decide) (by decide) hc.1.1 hc.1.2
    · exact isPrintableAscii_of_isDigit hc.2
  · cases h

lemma isShort_of_isRealTimestamp {s : String} (h : isRealTimestamp s = true) : IsShort s := by
  unfold isRealTimestamp at h
  rw [Bool.and_eq_true] at h
  obtain ⟨hprintable, hlen⟩ := isTimestamp_printable h.1
  exact isShort_of_printable hprintable (by omega)

/-- `_timestamp` accepts the real timestamps. -/
lemma timestampWith_ok [UnicodeData] {exn : String → Exn} {s field : String}
    (h : isRealTimestamp s = true) : timestampWith exn (.str s) field = .ok s := by
  unfold isRealTimestamp at h
  rw [Bool.and_eq_true] at h
  obtain ⟨hprintable, hlen⟩ := isTimestamp_printable h.1
  have hne : s ≠ "" := by
    rintro rfl
    exact absurd hlen (by decide)
  unfold timestampWith
  simp only [except_bind_ok, require_ok, exists_const, except_pure_ok]
  exact ⟨s, safeTextWith_ok hne hprintable (by omega), h.1, h.2, rfl⟩

/-! ## Sizes -/

section sizes

variable {escape : Char → List Char} {sep : Json.Separators}

open Json

lemma size_str_le (hescape : Escapes escape) {s : String} (h : IsShort s) :
    sizeWith escape sep (.str s) ≤ 770 := by
  have hle := @sizeWith_str_le _ sep hescape s
  unfold IsShort at h
  omega

lemma size_ofOption_le (hescape : Escapes escape) {s : Option String} (h : ∀ t ∈ s, IsShort t) :
    sizeWith escape sep (.ofOption s) ≤ 770 := by
  cases s with
  | none =>
      change sizeWith escape sep .null ≤ 770
      rw [sizeWith_null]
      decide
  | some t => exact size_str_le hescape (h t rfl)

end sizes

end AgentRuntimeOps.RootActions
