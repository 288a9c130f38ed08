import AgentRuntimeOps.Fstab.Preserving
import AgentRuntimeOps.Mounts.Mountinfo

/-!
# Escaped paths

`fstab_escape` doubles a backslash.  `fstab_unescape` halves the pair unless the text ends there,
and the decoder of `nas_views.py` knows digits only.
-/

namespace AgentRuntimeOps.Fstab

open Lib Mounts.Mountinfo

/-! ## Decoders -/

/-- `fstab_unescape`; a backslash with less than two characters behind it stands for itself. -/
def fstabUnescape : Text → Text
  | 92 :: 48 :: 52 :: 48 :: rest => 32 :: fstabUnescape rest
  | 92 :: 48 :: 49 :: 49 :: rest => 9 :: fstabUnescape rest
  | 92 :: 92 :: c :: rest => 92 :: fstabUnescape (c :: rest)
  | c :: rest => c :: fstabUnescape rest
  | [] => []

/-- `_fstab_unescape` of `nas_views.py`, which replaces what `decode_mountinfo_field` replaces. -/
def NasViews.fstabUnescape (value : Text) : Text := decodeMountinfoField value

section escaping

variable {c : Nat} {value : Text}

lemma escape_cons : fstabEscape (c :: value) = fstabEscape [c] ++ fstabEscape value := by
  unfold fstabEscape
  rw [List.flatMap_cons, List.flatMap_singleton]

lemma escape_backslash : fstabEscape (92 :: value) = 92 :: 92 :: fstabEscape value := rfl

/-- A character that is no backslash is escaped by itself, or as digits. -/
lemma escape_cases (value : Text) (hc : c ≠ 92) (hfeed : c ≠ 10) :
    fstabEscape (c :: value) = c :: fstabEscape value ∨
      (c = 32 ∧ fstabEscape (c :: value) = 92 :: 48 :: 52 :: 48 :: fstabEscape value) ∨
      (c = 9 ∧ fstabEscape (c :: value) = 92 :: 48 :: 49 :: 49 :: fstabEscape value) := by
  by_cases hblank : c = 32
  · subst hblank
    exact .inr (.inl ⟨rfl, rfl⟩)
  · by_cases htab : c = 9
    · subst htab
      exact .inr (.inr ⟨rfl, rfl⟩)
    · left
      rw [escape_cons]
      simp [fstabEscape, hc, hblank, htab, hfeed]

/-- A digit in front of an escaped text was there before. -/
lemma exists_of_escape_eq {a : Nat} {t : Text} (h : fstabEscape value = a :: t)
    (hfeed : 10 ∉ value) (ha : isOctal a = true) :
    ∃ rest, value = a :: rest ∧ fstabEscape rest = t := by
  have hne : a ≠ 92 := by
    rintro rfl
    cases ha
  cases value with
  | nil => cases h
  | cons c rest =>
      by_cases hc : c = 92
      · subst hc
        rw [escape_backslash] at h
        exact absurd (List.cons.inj h).1.symm hne
      · rcases escape_cases _ hc (fun heq => hfeed (heq ▸ List.mem_cons_self)) with
          heq | ⟨-, heq⟩ | ⟨-, heq⟩
        · rw [heq] at h
          obtain ⟨rfl, rfl⟩ := List.cons.inj h
          exact ⟨rest, rfl, rfl⟩
        · rw [heq] at h
          exact absurd (List.cons.inj h).1.symm hne
        · rw [heq] at h
          exact absurd (List.cons.inj h).1.symm hne

/-! ## Backslashes at the end -/

lemma unescape_cons (hc : c ≠ 92) : fstabUnescape (c :: value) = c :: fstabUnescape value := by
  rw [fstabUnescape]
  · rintro rest rfl
    exact absurd rfl hc
  · rintro rest rfl
    exact absurd rfl hc
  · rintro d rest rfl
    exact absurd rfl hc

/-- A character is read back if it is no backslash, or not the last one. -/
lemma unescape_escape_cons (hfeed : c ≠ 10) (h : c ≠ 92 ∨ fstabEscape value ≠ []) :
    fstabUnescape (fstabEscape (c :: value)) = c :: fstabUnescape (fstabEscape value) := by
  by_cases hc : c = 92
  · subst hc
    obtain ⟨d, rest, hrest⟩ := List.exists_cons_of_ne_nil (h.resolve_left (not_not_intro rfl))
    rw [escape_backslash, hrest, fstabUnescape]
  · rcases escape_cases value hc hfeed with heq | ⟨rfl, heq⟩ | ⟨rfl, heq⟩
    · rw [heq, unescape_cons hc]
    · rw [heq, fstabUnescape]
    · rw [heq, fstabUnescape]

lemma escape_ne_nil (h : value ≠ []) (hfeed : 10 ∉ value) : fstabEscape value ≠ [] := by
  obtain ⟨c, rest, rfl⟩ := List.exists_cons_of_ne_nil h
  by_cases hc : c = 92
  · subst hc
    exact List.cons_ne_nil _ _
  · rcases escape_cases _ hc (fun heq => hfeed (heq ▸ List.mem_cons_self)) with
      heq | ⟨-, heq⟩ | ⟨-, heq⟩ <;> rw [heq] <;> exact List.cons_ne_nil _ _

/-- **What the editor of fstab reads back**: every path that does not end with a backslash. -/
theorem unescape_escape_iff (hfeed : 10 ∉ value) :
    fstabUnescape (fstabEscape value) = value ↔ value.getLast? ≠ some 92 := by
  induction value with
  | nil => exact iff_of_true rfl nofun
  | cons c rest ih =>
      obtain ⟨hc, hrest⟩ := not_or.mp (mt List.mem_cons.mpr hfeed)
      cases rest with
      | nil =>
          by_cases hslash : c = 92
          · subst hslash
            exact iff_of_false (by decide) (by decide)
          · rw [unescape_escape_cons (Ne.symm hc) (.inl hslash)]
            exact iff_of_true rfl (by simpa using hslash)
      | cons d rest =>
          rw [unescape_escape_cons (Ne.symm hc) (.inr (escape_ne_nil (List.cons_ne_nil _ _) hrest)),
            List.cons_inj_right, ih hrest, List.getLast?_cons_cons]

/-! ## Backslashes anywhere -/

/-- The decoder reads a character back if it is no backslash. -/
lemma decode_escape_cons (hc : c ≠ 92) (hfeed : c ≠ 10) :
    decodeMountinfoField (fstabEscape (c :: value)) =
      c :: decodeMountinfoField (fstabEscape value) := by
  rcases escape_cases value hc hfeed with heq | ⟨rfl, heq⟩ | ⟨rfl, heq⟩
  · rw [heq, decode_cons hc]
  · rw [heq, decodeMountinfoField]
    rfl
  · rw [heq, decodeMountinfoField]
    rfl

/-- A backslash stands for itself, unless three digits follow. -/
lemma decode_backslash (t : Text) :
    decodeMountinfoField (92 :: t) = 92 :: decodeMountinfoField t ∨
      ∃ a b c x rest, t = a :: b :: c :: rest ∧ isOctal a = true ∧ isOctal b = true ∧
        isOctal c = true ∧ decodeMountinfoField (92 :: t) = x :: decodeMountinfoField rest := by
  rw [decodeMountinfoField.eq_def (92 :: t)]
  split
  case h_1 heq =>
    cases heq
    split_ifs with hdigits
    · simp only [Bool.and_eq_true] at hdigits
      exact .inr ⟨_, _, _, _, _, rfl, hdigits.1.1, hdigits.1.2, hdigits.2, rfl⟩
    · exact .inl rfl
  case h_2 heq =>
    cases heq
    exact .inl rfl
  case h_3 heq => cases heq

/-- An escaped backslash is read as two, or as one in front of what three digits stand for. -/
lemma decode_escape_backslash (hfeed : 10 ∉ value) :
    decodeMountinfoField (fstabEscape (92 :: value)) =
        92 :: 92 :: decodeMountinfoField (fstabEscape value) ∨
      ∃ a b c x rest, value = a :: b :: c :: rest ∧ a ≠ 92 ∧ b ≠ 92 ∧ c ≠ 92 ∧
        decodeMountinfoField (fstabEscape (92 :: value)) =
          92 :: x :: decodeMountinfoField (fstabEscape rest) := by
  have hdigit : ∀ {d}, isOctal d = true → d ≠ 92 := by
    rintro d hd rfl
    cases hd
  have hfirst : decodeMountinfoField (92 :: 92 :: fstabEscape value) =
      92 :: decodeMountinfoField (92 :: fstabEscape value) := by
    obtain heq | ⟨a, _, _, _, _, heq, ha, -⟩ := decode_backslash (92 :: fstabEscape value)
    · exact heq
    · obtain ⟨rfl, -⟩ := List.cons.inj heq
      cases ha
  rw [escape_backslash, hfirst]
  obtain heq | ⟨a, b, c, x, rest, heq, ha, hb, hc, hdecode⟩ := decode_backslash (fstabEscape value)
  · rw [heq]
    exact .inl rfl
  · obtain ⟨rest₁, rfl, h₁⟩ := exists_of_escape_eq heq hfeed ha
    have hfeed₁ : 10 ∉ rest₁ := fun h => hfeed (List.mem_cons_of_mem _ h)
    obtain ⟨rest₂, rfl, h₂⟩ := exists_of_escape_eq h₁ hfeed₁ hb
    have hfeed₂ : 10 ∉ rest₂ := fun h => hfeed₁ (List.mem_cons_of_mem _ h)
    obtain ⟨rest₃, rfl, rfl⟩ := exists_of_escape_eq h₂ hfeed₂ hc
    exact .inr ⟨a, b, c, x, rest₃, rfl, hdigit ha, hdigit hb, hdigit hc, by rw [hdecode]⟩

/-- Backslashes in front of what is read back are too many. -/
lemma backslashes_ne {count : Nat} (hcount : 0 < count) (hfeed : 10 ∉ value) :
    List.replicate count 92 ++ decodeMountinfoField (fstabEscape value) ≠ value := by
  -- the text would be the shorter, the more backslashes stand in front
  induction hlength : value.length generalizing value count with
  | zero =>
      rw [List.length_eq_zero_iff.mp hlength]
      exact List.append_ne_nil_of_left_ne_nil (by simp; omega) _
  | succ n ih =>
      intro heq
      obtain ⟨m, rfl⟩ := Nat.exists_eq_succ_of_ne_zero hcount.ne'
      rw [List.replicate_succ, List.cons_append] at heq
      obtain ⟨first, rest, rfl⟩ := List.exists_cons_of_length_eq_add_one hlength
      obtain ⟨rfl, hrest⟩ := List.cons.inj heq
      have hfeed' : 10 ∉ rest := fun h => hfeed (List.mem_cons_of_mem _ h)
      obtain hdecode | ⟨a, b, c, x, tail, htail, ha, -, -, hdecode⟩ :=
        decode_escape_backslash hfeed'
      · refine ih (Nat.succ_pos (m + 1)) hfeed' (Nat.succ.inj hlength) ?_
        rw [hdecode] at hrest
        rw [List.replicate_succ', List.replicate_succ', List.append_assoc, List.append_assoc]
        exact hrest
      · rw [hdecode, htail] at hrest
        cases m with
        | zero => exact ha (List.cons.inj hrest).1.symm
        | succ m => exact ha (List.cons.inj hrest).1.symm

/-- What is read back does not grow at its front, and then it has no backslash. -/
lemma front_eq_nil {front : Text} (hfront : 92 ∉ front) (hfeed : 10 ∉ value)
    (h : decodeMountinfoField (fstabEscape value) = front ++ value) :
    front = [] ∧ 92 ∉ value := by
  induction hlength : value.length using Nat.strong_induction_on generalizing value front with
  | _ n ih =>
    subst hlength
    cases value with
    | nil =>
        rw [List.append_nil] at h
        exact ⟨h.symm, List.not_mem_nil⟩
    | cons c rest =>
        obtain ⟨hc, hrest⟩ := not_or.mp (mt List.mem_cons.mpr hfeed)
        by_cases hslash : c = 92
        · subst hslash
          have hnil : front = [] := by
            by_contra hne
            obtain ⟨d, front, rfl⟩ := List.exists_cons_of_ne_nil hne
            have hfirst : d = 92 := by
              obtain hdecode | ⟨_, _, _, _, _, -, -, -, -, hdecode⟩ :=
                decode_escape_backslash hrest <;>
              · rw [hdecode] at h
                exact (List.cons.inj h).1.symm
            exact hfront (hfirst ▸ List.mem_cons_self)
          subst hnil
          obtain hdecode | ⟨a, b, c, x, tail, rfl, ha, hb, hc, hdecode⟩ :=
            decode_escape_backslash hrest
          · rw [hdecode] at h
            exact absurd (List.cons.inj h).2 (backslashes_ne Nat.one_pos hrest)
          · rw [hdecode] at h
            obtain ⟨-, htail⟩ := List.cons.inj (List.cons.inj h).2
            have hfree : 92 ∉ [b, c] := by simp [hb.symm, hc.symm]
            have hshort : tail.length < (92 :: a :: b :: c :: tail).length := by
              simp only [List.length_cons]
              omega
            have hfeed' : 10 ∉ tail := fun hmem => hrest (by simp [hmem])
            cases (ih _ hshort hfree hfeed' htail rfl).1
        · rw [decode_escape_cons hslash (Ne.symm hc)] at h
          cases front with
          | nil =>
              have hsame := ih _ (Nat.lt_succ_self _) hfront hrest (List.cons.inj h).2 rfl
              exact ⟨rfl, List.not_mem_cons_of_ne_of_not_mem (Ne.symm hslash) hsame.2⟩
          | cons d front =>
              obtain ⟨rfl, htail⟩ := List.cons.inj h
              have hfree : 92 ∉ front ++ [c] := by
                simp only [List.mem_append, List.mem_singleton, not_or]
                exact ⟨fun hmem => hfront (List.mem_cons_of_mem _ hmem), Ne.symm hslash⟩
              have hmoved := ih _ (Nat.lt_succ_self _) hfree hrest (by simpa using htail) rfl
              exact absurd hmoved.1 (by simp)

/-- **What the reader of views reads back**: every path without a backslash. -/
theorem decode_escape_iff (hfeed : 10 ∉ value) :
    NasViews.fstabUnescape (fstabEscape value) = value ↔ 92 ∉ value := by
  constructor
  · exact fun h => (front_eq_nil List.not_mem_nil hfeed h).2
  · intro h
    unfold NasViews.fstabUnescape
    induction value with
    | nil => rfl
    | cons c rest ih =>
        obtain ⟨hc, hrest⟩ := not_or.mp (mt List.mem_cons.mpr hfeed)
        obtain ⟨hslash, hfree⟩ := not_or.mp (mt List.mem_cons.mpr h)
        rw [decode_escape_cons (Ne.symm hslash) (Ne.symm hc), ih hrest hfree]

end escaping

/-! ## Both decoders -/

/-- The escaped text is one column, and both decoders read back what was written. -/
structure RoundTrips (value : Text) : Prop where
  column : 32 ∉ fstabEscape value ∧ 9 ∉ fstabEscape value
  edited : fstabUnescape (fstabEscape value) = value
  viewed : NasViews.fstabUnescape (fstabEscape value) = value

/-- **When escaped paths are read back.** -/
theorem roundTrips_iff (value : Text) :
    (10 ∉ value → RoundTrips value) ↔ (10 ∉ value → 92 ∉ value) := by
  refine forall_congr' fun hfeed => ?_
  constructor
  · exact fun h => (decode_escape_iff hfeed).mp h.viewed
  · intro h
    refine ⟨⟨fun hmem => (escaped_free hmem).1 rfl, fun hmem => (escaped_free hmem).2.1 rfl⟩,
      (unescape_escape_iff hfeed).mpr fun hlast => ?_, (decode_escape_iff hfeed).mpr h⟩
    exact h (List.mem_of_getLast? hlast)

/-- A backslash at the end is doubled, by both decoders. -/
theorem backslash_doubled : ¬∀ value, 10 ∉ value → RoundTrips value := fun h =>
  absurd (h (Text.of "a\\") (by decide)).edited (by decide)

end AgentRuntimeOps.Fstab
