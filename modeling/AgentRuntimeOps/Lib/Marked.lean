import AgentRuntimeOps.Lib.Crash

/-!
# Runs that remember what went wrong

`Answers.marked` adds to a world a proposition: that some answer of the run was one of those that
`mark` picks out, which may depend on the worlds before and after it.  A result can then say of a
run exactly which of its steps decide what it leaves behind.

`Straight P p` says of a program that its operations satisfy `P` and that it catches no exception,
and raises none of its own.  `safe_of_straight` proves of such a program what holds while it goes
on, and what holds when a step raises.

`ends_eval_of_steps` shows that an executed run is a run of a world that does not answer everything,
and `ends_eval_unmarked` that it is one without a mark.
-/

namespace AgentRuntimeOps.Lib

namespace Program

variable {Op : Type} {Res : Op → Type} {ε α β W : Type}

/-! ## Marks -/

/-- The world with the proposition that `mark` held of some answer. -/
def Answers.marked (resp : Answers Op Res ε W)
    (mark : W → (op : Op) → Except ε (Res op) → W → Prop) : Answers Op Res ε (W × Prop) :=
  fun w op r w' => resp w.1 op r w'.1 ∧ (w'.2 ↔ w.2 ∨ mark w.1 op r w'.1)

section marks

variable {resp : Answers Op Res ε W} {mark : W → (op : Op) → Except ε (Res op) → W → Prop}
  {p q : Program Op Res ε α} {w w' : W}

lemma RunsTo.marked (h : RunsTo resp p w q w') (m : Prop) :
    ∃ m', RunsTo (resp.marked mark) p (w, m) q (w', m') := by
  induction h generalizing m with
  | refl => exact ⟨m, .refl _ _⟩
  | @next op k _ w w₁ _ r hop _ ih =>
      obtain ⟨m', hrest⟩ := ih (m ∨ mark w op r w₁)
      exact ⟨m', .next ⟨hop, Iff.rfl⟩ hrest⟩

/-- What was marked stays marked. -/
lemma safe_marked (g : W × Prop) (p : Program Op Res ε α) :
    Safe ⟨fun _ _ => True, resp.marked mark⟩ (fun g' _ => g.2 → g'.2) (fun g' _ => g.2 → g'.2) g
      p := by
  induction p generalizing g with
  | ret a => exact id
  | fail e => exact id
  | call op k ih =>
      refine ⟨trivial, fun r g' hr => ?_⟩
      have hstays : g.2 → g'.2 := fun h => hr.2.mpr (.inl h)
      exact (ih r g').mono (fun _ _ h hg => h (hstays hg)) fun _ _ h hg => h (hstays hg)

/-- Every run can be followed with its marks. -/
lemma Ends.marked {x : Except ε α} (h : Ends resp p w x w') (m : Prop) :
    ∃ m', Ends (resp.marked mark) p (w, m) x (w', m') := RunsTo.marked h m

end marks

/-! ## Programs that do not handle exceptions -/

/-- Every operation satisfies `P`, and what it raises is raised. -/
def Straight (P : Op → Prop) : Program Op Res ε α → Prop
  | ret _ => True
  | fail _ => False
  | call op k => P op ∧ (∀ e, k (.error e) = fail e) ∧ ∀ a, Straight P (k (.ok a))

section straight

variable {P : Op → Prop}

@[simp] lemma straight_pure (a : α) : Straight P (pure a : Program Op Res ε α) := trivial

@[simp] lemma straight_perform {op : Op} :
    Straight P (perform op : Program Op Res ε (Res op)) ↔ P op :=
  ⟨fun h => h.1, fun h => ⟨h, fun _ => rfl, fun _ => trivial⟩⟩

lemma straight_bind {p : Program Op Res ε α} {f : α → Program Op Res ε β} (hp : Straight P p)
    (hf : ∀ a, Straight P (f a)) : Straight P (p >>= f) := by
  change Straight P (p.bind f)
  induction p with
  | ret a => exact hf a
  | fail e => exact absurd hp id
  | call op k ih =>
      obtain ⟨hop, hraises, hrest⟩ := hp
      refine ⟨hop, fun e => ?_, fun a => ih (.ok a) (hrest a)⟩
      change (k (.error e)).bind f = fail e
      rw [hraises e]
      rfl

/-- `I` holds while the program goes on, `E` when it raises. -/
lemma safe_of_straight {resp : Answers Op Res ε W} {p : Program Op Res ε α} {I E : W → Prop} {w : W}
    (hp : Straight P p)
    (hok : ∀ w op a w', P op → I w → resp w op (.ok a) w' → I w')
    (herror : ∀ w op e w', P op → I w → resp w op (.error e) w' → E w') (hw : I w) :
    Safe ⟨fun _ _ => True, resp⟩ (fun w _ => I w) (fun w _ => E w) w p := by
  induction p generalizing w with
  | ret a => exact hw
  | fail e => exact absurd hp id
  | call op k ih =>
      obtain ⟨hop, hraises, hrest⟩ := hp
      refine ⟨trivial, ?_⟩
      rintro (e | a) w' hr
      · rw [hraises e]
        exact herror w op e w' hop hw hr
      · exact ih (.ok a) (hrest a) (hok w op a w' hop hw hr)

end straight

/-! ## Executed runs with checked steps -/

section checked

variable {resp : Answers Op Res ε W} (exec : (op : Op) → W → Except ε (Res op) × W)
  (check : Op → W → Bool)

/-- Every operation that is executed passes the check. -/
def stepsAll : Program Op Res ε α → W → Bool
  | ret _, _ => true
  | fail _, _ => true
  | call op k, w => check op w && stepsAll (k (exec op w).1) (exec op w).2

variable {exec check}

/-- A run that is executed is a run, if the answers to its operations are possible ones. -/
theorem ends_eval_of_steps
    (hexec : ∀ op w, check op w = true → resp w op (exec op w).1 (exec op w).2)
    {p : Program Op Res ε α} {w : W} (h : stepsAll exec check p w = true) :
    Ends resp p w (eval exec p w).1 (eval exec p w).2 := by
  induction p generalizing w with
  | ret a => exact .refl _ _
  | fail e => exact .refl _ _
  | call op k ih =>
      obtain ⟨hop, hrest⟩ := Bool.and_eq_true_iff.mp h
      exact .next (hexec op w hop) (ih _ hrest)

/-- An executed run without a marked answer. -/
theorem ends_eval_unmarked {mark : W → (op : Op) → Except ε (Res op) → W → Prop}
    (hexec : ∀ op w, check op w = true → resp w op (exec op w).1 (exec op w).2 ∧
      ¬mark w op (exec op w).1 (exec op w).2)
    {p : Program Op Res ε α} {w : W} (h : stepsAll exec check p w = true) :
    Ends (resp.marked mark) p (w, False) (eval exec p w).1 ((eval exec p w).2, False) := by
  induction p generalizing w with
  | ret a => exact .refl _ _
  | fail e => exact .refl _ _
  | call op k ih =>
      obtain ⟨hop, hrest⟩ := Bool.and_eq_true_iff.mp h
      obtain ⟨hanswer, hunmarked⟩ := hexec op w hop
      have hfirst : resp.marked mark (w, False) op (exec op w).1 ((exec op w).2, False) :=
        ⟨hanswer, iff_of_false id fun hmark => hmark.elim id hunmarked⟩
      exact .next hfirst (ih _ hrest)

end checked

end Program

end AgentRuntimeOps.Lib
