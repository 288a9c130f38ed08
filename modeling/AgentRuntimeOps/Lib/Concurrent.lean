import AgentRuntimeOps.Lib.Crash

/-!
# Programs that run at the same time

A `Config` is a world and what is left to run of each process.  In one step the surroundings change
the world, a process is started, a process performs its next operation, or a process is cut off.

`Guarded` is the invariant of a proof by ghost knowledge: an invariant of the world, and for each
process a knowledge that is true in the world and with which the rest of its program keeps the
rules (`Program.Safe`).  `Respects` lists what has to be shown for one operation: it keeps the
invariant, the process learns what the rules say, and the knowledge of the others stays true.
`Respects.guarded` carries it over every run, in any order of the steps.

`advance` executes some operations of a process, and `execute` a schedule of such turns;
`Processes.reaches_advance` and `Processes.reaches_execute` make steps of them.
-/

namespace AgentRuntimeOps.Lib

open Program

variable {Op : Type} {Res : Op → Type} {ε α W K γ : Type}

/-- A world, and what is left to run of each process. -/
structure Config (Op : Type) (Res : Op → Type) (ε α W K : Type) where
  world : W
  procs : K → Option (Program Op Res ε α)

/-- What a process has returned. -/
def Config.returned (c : Config Op Res ε α W K) (k : K) : Option α :=
  match c.procs k with
  | some (.ret a) => some a
  | _ => none

lemma Config.returned_eq_some_iff {c : Config Op Res ε α W K} {k : K} {a : α} :
    c.returned k = some a ↔ c.procs k = some (.ret a) := by
  unfold Config.returned
  split
  · rename_i b hb
    rw [hb]
    simp
  · rename_i hne
    constructor
    · exact nofun
    · exact fun h => absurd h (hne a)

/-- What can happen. -/
structure Processes (Op : Type) (Res : Op → Type) (ε α W K : Type) where
  /-- How the world answers a process. -/
  resp : K → Answers Op Res ε W
  /-- What the surroundings do to the world. -/
  surroundings : W → W → Prop
  /-- The programs that are started. -/
  started : K → Program Op Res ε α → Prop
  /-- The world after a process is cut off. -/
  cutOff : K → W → W

variable [DecidableEq K]

/-- One step. -/
inductive Processes.Step (P : Processes Op Res ε α W K) :
    Config Op Res ε α W K → Config Op Res ε α W K → Prop where
  | surroundings {c : Config Op Res ε α W K} {w : W} (h : P.surroundings c.world w) :
      P.Step c ⟨w, c.procs⟩
  | start {c : Config Op Res ε α W K} {k : K} {p : Program Op Res ε α} (hfree : c.procs k = none)
      (h : P.started k p) : P.Step c ⟨c.world, Function.update c.procs k (some p)⟩
  | operation {c : Config Op Res ε α W K} {k : K} {op : Op}
      {f : Except ε (Res op) → Program Op Res ε α} {r : Except ε (Res op)} {w : W}
      (hproc : c.procs k = some (.call op f)) (h : P.resp k c.world op r w) :
      P.Step c ⟨w, Function.update c.procs k (some (f r))⟩
  | crash {c : Config Op Res ε α W K} {k : K} {p : Program Op Res ε α}
      (hproc : c.procs k = some p) :
      P.Step c ⟨P.cutOff k c.world, Function.update c.procs k none⟩

/-- A proof by ghost knowledge. -/
structure GhostProof (Op : Type) (Res : Op → Type) (ε α W K γ : Type) where
  /-- What holds of the world. -/
  inv : W → Prop
  /-- What a process knows of the world. -/
  knows : K → γ → W → Prop
  /-- What a process may do, and what it learns. -/
  rules : Rules Op Res ε γ
  /-- What a process has to show for the value that it returns. -/
  post : γ → α → Prop

/-- The obligations of such a proof. -/
structure Respects (P : Processes Op Res ε α W K) (Γ : GhostProof Op Res ε α W K γ) : Prop where
  surroundings {w w' : W} (hw : Γ.inv w) (h : P.surroundings w w') :
    Γ.inv w' ∧ ∀ k g, Γ.knows k g w → Γ.knows k g w'
  start {k : K} {p : Program Op Res ε α} {w : W} (hw : Γ.inv w) (h : P.started k p) :
    ∃ g, Γ.knows k g w ∧ Safe Γ.rules Γ.post (fun _ _ => True) g p
  operation {k : K} {g : γ} {w w' : W} {op : Op} {r : Except ε (Res op)} (hw : Γ.inv w)
    (hg : Γ.knows k g w) (hpre : Γ.rules.pre g op) (h : P.resp k w op r w') :
    Γ.inv w' ∧ (∃ g', Γ.rules.resp g op r g' ∧ Γ.knows k g' w') ∧
      ∀ j g, j ≠ k → Γ.knows j g w → Γ.knows j g w'
  crash {k : K} {w : W} (hw : Γ.inv w) :
    Γ.inv (P.cutOff k w) ∧ ∀ j g, j ≠ k → Γ.knows j g w → Γ.knows j g (P.cutOff k w)

/-- The invariant holds, and every process keeps the rules with what it knows. -/
def Guarded (Γ : GhostProof Op Res ε α W K γ) (c : Config Op Res ε α W K) : Prop :=
  Γ.inv c.world ∧ ∀ k p, c.procs k = some p →
    ∃ g, Γ.knows k g c.world ∧ Safe Γ.rules Γ.post (fun _ _ => True) g p

namespace Respects

variable {P : Processes Op Res ε α W K} {Γ : GhostProof Op Res ε α W K γ}
  {c c' : Config Op Res ε α W K}

omit [DecidableEq K] in
/-- What an operation of a process does. -/
theorem learns (hΓ : Respects P Γ) (hc : Guarded Γ c) {k : K} {op : Op}
    {f : Except ε (Res op) → Program Op Res ε α} {r : Except ε (Res op)} {w : W}
    (hproc : c.procs k = some (.call op f)) (h : P.resp k c.world op r w) :
    ∃ g g', Γ.knows k g c.world ∧ Γ.rules.pre g op ∧ Γ.rules.resp g op r g' ∧ Γ.knows k g' w ∧
      Safe Γ.rules Γ.post (fun _ _ => True) g' (f r) := by
  obtain ⟨g, hg, hsafe⟩ := hc.2 k _ hproc
  obtain ⟨-, ⟨g', hresp, hg'⟩, -⟩ := hΓ.operation hc.1 hg hsafe.1 h
  exact ⟨g, g', hg, hsafe.1, hresp, hg', hsafe.2 r g' hresp⟩

/-- One step keeps the invariant. -/
theorem guarded_step (hΓ : Respects P Γ) (hc : Guarded Γ c) (h : P.Step c c') : Guarded Γ c' := by
  obtain ⟨hinv, hprocs⟩ := hc
  cases h with
  | surroundings h =>
      obtain ⟨hinv', hknows⟩ := hΓ.surroundings hinv h
      refine ⟨hinv', fun k p hproc => ?_⟩
      obtain ⟨g, hg, hsafe⟩ := hprocs k p hproc
      exact ⟨g, hknows k g hg, hsafe⟩
  | @start k p hfree h =>
      refine ⟨hinv, fun j q hproc => ?_⟩
      change Function.update c.procs k (some p) j = some q at hproc
      by_cases hj : j = k
      · subst hj
        rw [Function.update_self] at hproc
        cases hproc
        exact hΓ.start hinv h
      · rw [Function.update_of_ne hj] at hproc
        exact hprocs j q hproc
  | @operation k op f r w hproc h =>
      obtain ⟨g, hg, hsafe⟩ := hprocs k _ hproc
      obtain ⟨hinv', ⟨g', hresp, hg'⟩, hothers⟩ := hΓ.operation hinv hg hsafe.1 h
      refine ⟨hinv', fun j q hproc' => ?_⟩
      change Function.update c.procs k (some (f r)) j = some q at hproc'
      by_cases hj : j = k
      · subst hj
        rw [Function.update_self] at hproc'
        cases hproc'
        exact ⟨g', hg', hsafe.2 r g' hresp⟩
      · rw [Function.update_of_ne hj] at hproc'
        obtain ⟨g₁, hg₁, hsafe₁⟩ := hprocs j q hproc'
        exact ⟨g₁, hothers j g₁ hj hg₁, hsafe₁⟩
  | @crash k p hproc =>
      obtain ⟨hinv', hothers⟩ := hΓ.crash hinv
      refine ⟨hinv', fun j q hproc' => ?_⟩
      change Function.update c.procs k none j = some q at hproc'
      by_cases hj : j = k
      · subst hj
        rw [Function.update_self] at hproc'
        cases hproc'
      · rw [Function.update_of_ne hj] at hproc'
        obtain ⟨g, hg, hsafe⟩ := hprocs j q hproc'
        exact ⟨g, hothers j g hj hg, hsafe⟩

/-- Every run keeps the invariant. -/
theorem guarded (hΓ : Respects P Γ) (hc : Guarded Γ c) (h : Relation.ReflTransGen P.Step c c') :
    Guarded Γ c' := by
  induction h with
  | refl => exact hc
  | tail _ hstep ih => exact hΓ.guarded_step ih hstep

end Respects

/-! ## Executing a process -/

section advance

variable (exec : (op : Op) → W → Except ε (Res op) × W) (allowed : W → Op → Bool)

/-- Up to `n` operations of a program, if all of them are allowed. -/
def advance : Nat → Program Op Res ε α → W → Option (Program Op Res ε α × W)
  | 0, p, w => some (p, w)
  | _ + 1, .ret a, w => some (.ret a, w)
  | _ + 1, .fail e, w => some (.fail e, w)
  | n + 1, .call op k, w =>
      if allowed w op then advance n (k (exec op w).1) (exec op w).2 else none

variable {exec allowed} {P : Processes Op Res ε α W K} {k : K} {p q : Program Op Res ε α}

/-- What a process executes are steps. -/
theorem Processes.reaches_advance {n : Nat} {w w' : W} {procs : K → Option (Program Op Res ε α)}
    (hresp : ∀ op w, allowed w op = true → P.resp k w op (exec op w).1 (exec op w).2)
    (h : advance exec allowed n p w = some (q, w')) (hk : procs k = some p) :
    Relation.ReflTransGen P.Step ⟨w, procs⟩ ⟨w', Function.update procs k (some q)⟩ := by
  induction n generalizing p w procs with
  | zero =>
      cases h
      rw [← hk, Function.update_eq_self]
  | succ n ih =>
      cases p with
      | ret a =>
          cases h
          rw [← hk, Function.update_eq_self]
      | fail e =>
          cases h
          rw [← hk, Function.update_eq_self]
      | call op f =>
          unfold advance at h
          split_ifs at h with hop
          have hstep : P.Step ⟨w, procs⟩
              ⟨(exec op w).2, Function.update procs k (some (f (exec op w).1))⟩ :=
            .operation hk (hresp op w hop)
          have hrest := ih h (Function.update_self k (some (f (exec op w).1)) procs)
          rw [Function.update_idem] at hrest
          exact .head hstep hrest

/-- A turn of a process, which is started in its first one. -/
theorem Processes.reaches_turn {program : Program Op Res ε α} {n : Nat} {w : W}
    {c : Config Op Res ε α W K}
    (hresp : ∀ op w, allowed w op = true → P.resp k w op (exec op w).1 (exec op w).2)
    (hstart : P.started k program)
    (h : advance exec allowed n ((c.procs k).getD program) c.world = some (q, w)) :
    Relation.ReflTransGen P.Step c ⟨w, Function.update c.procs k (some q)⟩ := by
  cases hproc : c.procs k with
  | none =>
      rw [hproc] at h
      have hturn := P.reaches_advance hresp h (Function.update_self k (some program) c.procs)
      rw [Function.update_idem] at hturn
      exact .head (.start hproc hstart) hturn
  | some p =>
      rw [hproc] at h
      exact P.reaches_advance hresp h hproc

variable (exec allowed) in
/-- The processes take turns: each number of operations is of the process before it, which is started
in its first turn. -/
def execute (program : K → Program Op Res ε α) :
    List (K × Nat) → Config Op Res ε α W K → Option (Config Op Res ε α W K)
  | [], c => some c
  | (k, n) :: turns, c =>
      (advance exec allowed n ((c.procs k).getD (program k)) c.world).bind fun r =>
        execute program turns ⟨r.2, Function.update c.procs k (some r.1)⟩

/-- The turns of the processes are steps. -/
theorem Processes.reaches_execute {program : K → Program Op Res ε α} {turns : List (K × Nat)}
    {c c' : Config Op Res ε α W K}
    (hresp : ∀ k op w, allowed w op = true → P.resp k w op (exec op w).1 (exec op w).2)
    (hstart : ∀ k, P.started k (program k)) (h : execute exec allowed program turns c = some c') :
    Relation.ReflTransGen P.Step c c' := by
  induction turns generalizing c with
  | nil =>
      cases h
      exact .refl
  | cons turn turns ih =>
      obtain ⟨k, n⟩ := turn
      obtain ⟨⟨q, w⟩, hadvance, hrest⟩ := Option.bind_eq_some_iff.mp h
      exact (P.reaches_turn (hresp k) (hstart k) hadvance).trans (ih hrest)

end advance

end AgentRuntimeOps.Lib
