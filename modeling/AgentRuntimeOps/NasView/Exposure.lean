import Mathlib
import AgentRuntimeOps.Lib.Marked
import AgentRuntimeOps.NasView.Ledger

/-!
# Whether a failed assign leaves a view mounted

`cmd_nas_view_assign` takes the binds of a view down again when a bind answers with an error, and
when the record of the view is not saved.  It does not when a step raises in between.
`assign_exposes` says of every run that fails which of its steps leave something mounted, or
recorded: those of `Exposes`.
-/

namespace AgentRuntimeOps.NasView

open AgentRuntimeOps.Lib Program

/-! ## What a failed assign may leave -/

namespace World

/-- Something is mounted at or under the entry or the view. -/
def ViewMounted (w : World) (key : ViewKey) : Prop :=
  w.MountedUnder (slotEntry key.1 key.2) ∨ w.MountedUnder (viewRoot key.1 key.2)

/-- The view is mounted or recorded. -/
def Exposed (w : World) (key : ViewKey) : Prop :=
  w.ViewMounted key ∨ (w.views.getViewRecord key).isSome

end World

/-- The clean-ups find all that is mounted to be unmounted, one by one, without an error. -/
def CleanOutcome : Program.Answers Op Op.Res Raised World := fun w op =>
  match op with
  | .umount .cleanUp target => fun r w' =>
      r = .ok (.ok ()) ∧ Outcome w (.umount .cleanUp target) r w'
  | op => Outcome w op

/-- The answers after which an assign leaves something behind: a save that raises although it was
done, a clean-up that does not see a mount or unmounts one of two, and an exception of any other
step but the last, as soon as something is mounted. -/
def Exposes (key : ViewKey) (_ : World) (op : Op) : Except Raised op.Res → World → Prop :=
  match op with
  | .saveViews .. => fun r w' => (∃ e, r = .error e) ∧ (w'.views.getViewRecord key).isSome
  | .now => fun _ _ => False
  | .umount .cleanUp target => fun _ w' => target ∈ w'.mounts
  | .findmntUnder .cleanUp root => fun r w' =>
      (∃ e, r = .error e) ∧ w'.ViewMounted key ∨
      (∃ text, r = .ok (.error text)) ∧ w'.MountedUnder root
  | .fullyMounted .. => fun r w' => r ≠ .ok false ∧ w'.ViewMounted key
  | _ => fun r w' => (∃ e, r = .error e) ∧ w'.ViewMounted key

/-- The runs of an assign whose clean-ups unmount, with whether a step was one of `Exposes`. -/
abbrev assignAnswers (key : ViewKey) : Program.Answers Op Op.Res Raised (World × Prop) :=
  CleanOutcome.marked (Exposes key)

section assign

variable {key : ViewKey}

/-! ## Steps of the mount work -/

/-- The steps of a plan and of its binds. -/
def Op.isWork : Op → Bool
  | .saveViews .. => false
  | .now => false
  | .umount .cleanUp _ => false
  | .findmntUnder .cleanUp _ => false
  | .fullyMounted .. => false
  | _ => true

/-- The work saves nothing, and is not marked as long as it goes on. -/
lemma views_of_work_ok {w w' : World} {op : Op} {a : op.Res} (hop : op.isWork = true)
    (h : CleanOutcome w op (.ok a) w') : w'.views = w.views ∧ ¬Exposes key w op (.ok a) w' := by
  cases op with
  | saveViews => cases hop
  | now => cases hop
  | fullyMounted => cases hop
  | umount purpose target =>
      cases purpose with
      | cleanUp => cases hop
      | work =>
          refine ⟨?_, fun hmark => nomatch hmark.1.choose_spec⟩
          rcases h with ⟨-, -, rfl⟩ | ⟨-, rfl⟩ | ⟨⟨e, he⟩, -⟩
          · rfl
          · rfl
          · cases he
  | findmntUnder purpose root =>
      cases purpose with
      | cleanUp => cases hop
      | work => exact ⟨by rw [h.1], fun hmark => nomatch hmark.1.choose_spec⟩
  | bind recursive source target =>
      refine ⟨?_, fun hmark => nomatch hmark.1.choose_spec⟩
      rcases h with ⟨-, rfl⟩ | ⟨-, rfl⟩ | ⟨⟨e, he⟩, -⟩
      · rfl
      · rfl
      · cases he
  | loadViews => exact ⟨by rw [h.1], fun hmark => nomatch hmark.1.choose_spec⟩
  | findmntOne target => exact ⟨by rw [h.1], fun hmark => nomatch hmark.1.choose_spec⟩
  | _ =>
      have hworld : w' = w := h
      exact ⟨by rw [hworld], fun hmark => nomatch hmark.1.choose_spec⟩

/-- When it raises it is marked if something is mounted. -/
lemma views_of_work_error {w w' : World} {op : Op} {e : Raised} (hop : op.isWork = true)
    (h : CleanOutcome w op (.error e) w') :
    w'.views = w.views ∧ (Exposes key w op (.error e) w' ↔ w'.ViewMounted key) := by
  have hmark : ∀ {P : Prop},
      (∃ e' : Raised, (Except.error e : Except Raised op.Res) = .error e') ∧ P ↔ P :=
    fun {P} => and_iff_right ⟨e, rfl⟩
  cases op with
  | saveViews => cases hop
  | now => cases hop
  | fullyMounted => cases hop
  | umount purpose target =>
      cases purpose with
      | cleanUp => cases hop
      | work =>
          refine ⟨?_, hmark⟩
          rcases h with ⟨he, -⟩ | ⟨⟨_, he⟩, -⟩ | ⟨-, rfl | rfl⟩
          · cases he
          · cases he
          · rfl
          · rfl
  | findmntUnder purpose root =>
      cases purpose with
      | cleanUp => cases hop
      | work => exact ⟨by rw [h.1], hmark⟩
  | bind recursive source target =>
      refine ⟨?_, hmark⟩
      rcases h with ⟨he, -⟩ | ⟨⟨_, he⟩, -⟩ | ⟨-, rfl | rfl⟩
      · cases he
      · cases he
      · rfl
      · rfl
  | loadViews => exact ⟨by rw [h.1], hmark⟩
  | findmntOne target => exact ⟨by rw [h.1], hmark⟩
  | _ =>
      have hworld : w' = w := h
      exact ⟨by rw [hworld], hmark⟩

/-- Nothing was marked so far, and nothing is saved. -/
def Unmarked (views : ViewsState) (g : World × Prop) : Prop := g.1.views = views ∧ ¬g.2

/-- The marks say whether the view is mounted, and nothing is saved. -/
def Decided (key : ViewKey) (views : ViewsState) (g : World × Prop) : Prop :=
  g.1.views = views ∧ (g.2 ↔ g.1.ViewMounted key)

/-- Work that is not interrupted is not marked; when it raises the marks are decided. -/
lemma safe_work {α : Type} {p : Run α} {views : ViewsState} {g : World × Prop}
    (hp : Straight (fun op => op.isWork = true) p) (hg : Unmarked views g) :
    Safe ⟨fun _ _ => True, assignAnswers key⟩ (fun g _ => Unmarked views g)
      (fun g _ => Decided key views g) g p := by
  refine safe_of_straight hp ?_ ?_ hg
  · rintro g op a g' hop ⟨hviews, hunmarked⟩ ⟨hanswer, hmark⟩
    obtain ⟨hsame, hnot⟩ := @views_of_work_ok key _ _ _ _ hop hanswer
    refine ⟨hsame.trans hviews, fun hmarked => ?_⟩
    exact (hmark.mp hmarked).elim hunmarked hnot
  · rintro g op e g' hop ⟨hviews, hunmarked⟩ ⟨hanswer, hmark⟩
    obtain ⟨hsame, hiff⟩ := @views_of_work_error key _ _ _ _ hop hanswer
    refine ⟨hsame.trans hviews, ?_⟩
    rw [hmark, hiff]
    exact or_iff_right hunmarked

section straightPrograms

/-- A program of the mount work. -/
abbrev Works {α : Type} (p : Run α) : Prop := Straight (fun op => op.isWork = true) p

lemma works_umountAll (targets : List Path) : Works (umountAll .work targets) := by
  induction targets with
  | nil => exact trivial
  | cons target targets ih =>
      refine straight_bind (straight_perform.mpr rfl) fun answer => ?_
      refine straight_bind ih fun failures => ?_
      cases answer <;> exact trivial

lemma works_unmountTree (root : Path) : Works (unmountTree .work root) := by
  refine straight_bind (straight_perform.mpr rfl) fun found => ?_
  cases found with
  | error text => exact trivial
  | ok targets => exact works_umountAll _

lemma works_unmountStale (target : Path) : Works (unmountStale target) := by
  refine straight_bind (straight_perform.mpr rfl) fun found => ?_
  rcases found with text | _ | safe
  · exact trivial
  · exact trivial
  · exact works_unmountTree target

/-- A bind that fails after the mount is undone, and answers with the reason. -/
lemma works_undo (target : Path) (reason : String) :
    Works (do let _ ← unmountTree .work target; return (.error reason : Except String Unit)) :=
  straight_bind (works_unmountTree target) fun _ => trivial

lemma works_mountReadOnly (source target : Path) (recursive : Bool) (identity : Nat) :
    Works (mountReadOnly source target recursive identity) := by
  refine straight_bind (straight_perform.mpr rfl) fun mounted => ?_
  cases mounted with
  | error text => exact trivial
  | ok =>
      refine straight_bind (straight_perform.mpr rfl) fun remounted => ?_
      cases remounted with
      | error text => exact works_undo target _
      | ok =>
          refine straight_bind (straight_perform.mpr rfl) fun after => ?_
          by_cases hafter : after ≠ some identity
          · rw [if_pos hafter]
            exact works_undo target _
          · rw [if_neg hafter]
            refine straight_bind (straight_perform.mpr rfl) fun found => ?_
            rcases found with text | _ | _ | _
            · exact works_undo target _
            · exact works_undo target _
            · exact works_undo target _
            · exact trivial

lemma works_bindRo (source target : Path) (recursive : Bool) :
    Works (bindRo source target recursive) := by
  refine straight_bind (straight_perform.mpr rfl) fun checked => ?_
  cases checked with
  | error text => exact trivial
  | ok found =>
      dsimp only
      by_cases hkind : found.isDirectory = none
      · rw [if_pos hkind]
        exact trivial
      · rw [if_neg hkind]
        refine straight_bind (works_unmountStale target) fun failures => ?_
        by_cases hfailures : failures ≠ []
        · rw [if_pos hfailures]
          exact trivial
        · rw [if_neg hfailures]
          refine straight_bind (straight_perform.mpr rfl) fun made => ?_
          cases made with
          | error text => exact trivial
          | ok => exact works_mountReadOnly source target recursive found.identity

end straightPrograms

/-! ## The clean-up -/

/-- What a clean-up did with these targets: they are gone unless it was marked, the others are as
they were. -/
structure Cleaned (targets : List Path) (g g' : World × Prop) : Prop where
  views : g'.1.views = g.1.views
  others : ∀ target ∉ targets, (target ∈ g'.1.mounts ↔ target ∈ g.1.mounts)
  marked : g'.2 ↔ g.2 ∨ ∃ target ∈ targets, target ∈ g'.1.mounts

lemma safe_umountAll {targets : List Path} (hnodup : targets.Nodup) (g : World × Prop)
    {E : World × Prop → Raised → Prop} :
    Safe ⟨fun _ _ => True, assignAnswers key⟩ (fun g' _ => Cleaned targets g g') E g
      (umountAll .cleanUp targets) := by
  induction targets generalizing g with
  | nil => exact ⟨rfl, fun _ _ => Iff.rfl, by simp⟩
  | cons target targets ih =>
      obtain ⟨hfresh, hrest⟩ := List.nodup_cons.mp hnodup
      refine ⟨trivial, ?_⟩
      rintro r g₁ ⟨⟨rfl, hdone⟩, hmark⟩
      have hunmounted : g₁.1 = g.1.unmount target := by
        rcases hdone with ⟨-, -, h⟩ | ⟨⟨_, h⟩, -⟩ | ⟨⟨_, h⟩, -⟩
        · exact h
        · cases h
        · cases h
      refine (ih hrest g₁).bind fun g₂ failures hcleaned => ?_
      refine ⟨hcleaned.views.trans (by rw [hunmounted]; rfl), ?_, ?_⟩
      · intro other hother
        obtain ⟨hne, hnot⟩ := not_or.mp (mt List.mem_cons.mpr hother)
        rw [hcleaned.others other hnot, hunmounted]
        exact List.mem_erase_of_ne hne
      · have hstays := hcleaned.others target hfresh
        have hmarked : g₁.2 ↔ g.2 ∨ target ∈ g₁.1.mounts := hmark
        rw [hcleaned.marked, hmarked, List.exists_mem_cons_iff, hstays]
        exact or_assoc

/-- What a clean-up of a directory did: nothing is mounted there unless it was marked. -/
structure CleanedUnder (root : Path) (g g' : World × Prop) : Prop where
  views : g'.1.views = g.1.views
  others : ∀ target, ¬root <+: target → (target ∈ g'.1.mounts ↔ target ∈ g.1.mounts)
  marked : g'.2 ↔ g.2 ∨ g'.1.MountedUnder root

lemma nodup_deepestFirst (targets : List Path) : (deepestFirst targets).Nodup :=
  ((List.mergeSort_perm _ _).nodup_iff).mpr (List.nodup_dedup targets)

lemma mem_deepestFirst {targets : List Path} {target : Path} :
    target ∈ deepestFirst targets ↔ target ∈ targets := by
  unfold deepestFirst
  rw [List.mem_mergeSort, List.mem_dedup]

/-- When the mounts cannot be listed, the marks say whether the view is mounted. -/
lemma safe_unmountTree (root : Path) (g : World × Prop) :
    Safe ⟨fun _ _ => True, assignAnswers key⟩ (fun g' _ => CleanedUnder root g g')
      (fun g' _ => g'.1 = g.1 ∧ (g'.2 ↔ g.2 ∨ g.1.ViewMounted key)) g
      (unmountTree .cleanUp root) := by
  refine ⟨trivial, ?_⟩
  rintro (e | found) g₁ ⟨⟨hworld, hlisted⟩, hmark⟩
  · refine ⟨hworld, hmark.trans (or_congr_right ?_)⟩
    rw [hworld]
    refine ⟨fun h => ?_, fun h => .inl ⟨⟨e, rfl⟩, h⟩⟩
    rcases h with ⟨-, h⟩ | ⟨⟨_, h⟩, -⟩
    · exact h
    · cases h
  · cases found with
    | error text =>
        refine ⟨by rw [hworld], fun target _ => by rw [hworld], hmark.trans (or_congr_right ?_)⟩
        refine ⟨fun h => ?_, fun h => .inr ⟨⟨text, rfl⟩, h⟩⟩
        rcases h with ⟨⟨_, h⟩, -⟩ | ⟨-, h⟩
        · cases h
        · exact h
    | ok targets =>
        have hmem := hlisted targets rfl
        have hkept : g₁.2 ↔ g.2 := by
          rw [hmark]
          refine or_iff_left fun h => ?_
          rcases h with ⟨⟨_, h⟩, -⟩ | ⟨⟨_, h⟩, -⟩
          · cases h
          · cases h
        refine (safe_umountAll (nodup_deepestFirst targets) g₁).mono ?_ fun _ _ h => h
        intro g₂ failures hcleaned
        have hroot : ∀ target, target ∈ g₂.1.mounts → root <+: target → target ∈ targets := by
          intro target hmounted hprefix
          by_contra hnot
          have hwas := (hcleaned.others target (mt mem_deepestFirst.mp hnot)).mp hmounted
          rw [hworld] at hwas
          exact hnot ((hmem target).mpr ⟨hwas, hprefix⟩)
        refine ⟨hcleaned.views.trans (by rw [hworld]), ?_, ?_⟩
        · intro target hother
          have hnot : target ∉ targets := fun h => hother ((hmem target).mp h).2
          rw [hcleaned.others target (mt mem_deepestFirst.mp hnot), hworld]
        · rw [hcleaned.marked, hkept]
          refine or_congr_right ⟨?_, ?_⟩
          · rintro ⟨target, htarget, hmounted⟩
            exact ⟨target, hmounted, ((hmem target).mp (mem_deepestFirst.mp htarget)).2⟩
          · rintro ⟨target, hmounted, hprefix⟩
            exact ⟨target, mem_deepestFirst.mpr (hroot target hmounted hprefix), hmounted⟩

/-- An entry is in a home, a view is not. -/
lemma not_entry_of_view {slot : String} {corpus : Corpus} {target : Path}
    (h : slotEntry slot corpus <+: target) : ¬viewRoot slot corpus <+: target := by
  obtain ⟨rest, rfl⟩ := h
  rintro ⟨rest', h'⟩
  simp [slotEntry, viewRoot, slotViewsRoot] at h'

/-- After the clean-up of a view the marks are those before, and whether it is still mounted; so too
when the clean-up raises. -/
def ViewCleaned (key : ViewKey) (g g' : World × Prop) : Prop :=
  g'.1.views = g.1.views ∧ (g'.2 ↔ g.2 ∨ g'.1.ViewMounted key)

lemma safe_unmountView {plan : ViewPlan} (hplan : (plan.slot, plan.corpus) = key)
    (g : World × Prop) :
    Safe ⟨fun _ _ => True, assignAnswers key⟩ (fun g' _ => ViewCleaned key g g')
      (fun g' _ => ViewCleaned key g g') g (unmountView plan) := by
  obtain rfl := hplan
  refine safe_bind.mpr ((safe_unmountTree plan.entry g).mono ?_ ?_)
  · intro g₁ entryErrors hentry
    refine safe_bind.mpr ((safe_unmountTree plan.view g₁).mono ?_ ?_)
    · intro g₂ viewErrors hview
      refine ⟨hview.views.trans hentry.views, ?_⟩
      have hkept : g₂.1.MountedUnder plan.entry ↔ g₁.1.MountedUnder plan.entry := by
        refine exists_congr fun target => and_congr_left fun hprefix => ?_
        exact hview.others target (not_entry_of_view hprefix)
      rw [hview.marked, hentry.marked, ← hkept]
      exact or_assoc
    · rintro g₂ e ⟨hworld, hmark⟩
      refine ⟨by rw [hworld]; exact hentry.views, ?_⟩
      rw [hmark, hentry.marked, hworld]
      refine or_assoc.trans (or_congr_right ?_)
      exact or_iff_right_of_imp Or.inl
  · rintro g₁ e ⟨hworld, hmark⟩
    exact ⟨by rw [hworld], by rw [hmark, hworld]⟩

/-! ## The command -/

/-- A bind that answers with an error is cleaned up after. -/
lemma safe_failBinds {plan : ViewPlan} (hplan : (plan.slot, plan.corpus) = key)
    {views : ViewsState} {g : World × Prop} (hg : Unmarked views g) (reason : String) :
    Safe ⟨fun _ _ => True, assignAnswers key⟩
      (fun g answer => answer.isOk = false ∧ Decided key views g)
      (fun g _ => Decided key views g) g (failBinds plan reason) := by
  have hdecided : ∀ g', ViewCleaned key g g' → Decided key views g' := by
    rintro g' ⟨hviews, hmark⟩
    exact ⟨hviews.trans hg.1, by rw [hmark, or_iff_right hg.2]⟩
  refine safe_bind.mpr ((safe_unmountView hplan g).mono ?_ fun g' _ h => hdecided g' h)
  intro g' errors hcleaned
  by_cases herrors : errors = []
  · rw [if_pos herrors]
    exact ⟨rfl, hdecided g' hcleaned⟩
  · rw [if_neg herrors]
    exact ⟨rfl, hdecided g' hcleaned⟩

/-- What the binds leave: all of them, or what the clean-up left. -/
def BindsDone (key : ViewKey) (views : ViewsState) (g : World × Prop) (answer : Except String Nat) :
    Prop :=
  if answer.isOk then Unmarked views g else Decided key views g

lemma safe_bindRooms {plan : ViewPlan} (hplan : (plan.slot, plan.corpus) = key)
    {views : ViewsState} (rooms : List (Path × Path)) (bound : Nat) {g : World × Prop}
    (hg : Unmarked views g) :
    Safe ⟨fun _ _ => True, assignAnswers key⟩ (fun g answer => BindsDone key views g answer)
      (fun g _ => Decided key views g) g (bindRooms plan bound rooms) := by
  have hfails : ∀ g reason, Unmarked views g →
      Safe ⟨fun _ _ => True, assignAnswers key⟩ (fun g answer => BindsDone key views g answer)
        (fun g _ => Decided key views g) g (failBinds plan reason) := by
    intro g reason hg
    refine (safe_failBinds hplan hg reason).mono ?_ fun _ _ h => h
    rintro g' answer ⟨herror, hdecided⟩
    rw [BindsDone, herror]
    exact hdecided
  induction rooms generalizing bound g with
  | nil =>
      refine (safe_work (works_bindRo plan.view plan.entry true) hg).bind fun g₁ answer h₁ => ?_
      cases answer with
      | error reason => exact hfails g₁ _ h₁
      | ok => exact h₁
  | cons room rest ih =>
      obtain ⟨source, target⟩ := room
      refine (safe_work (works_bindRo source target false) hg).bind fun g₁ answer h₁ => ?_
      cases answer with
      | error reason => exact hfails g₁ _ h₁
      | ok => exact ih (bound + 1) h₁

lemma safe_applyBinds {plan : ViewPlan} (hplan : (plan.slot, plan.corpus) = key)
    {views : ViewsState} {g : World × Prop} (hg : Unmarked views g) :
    Safe ⟨fun _ _ => True, assignAnswers key⟩ (fun g answer => BindsDone key views g answer)
      (fun g _ => Decided key views g) g (applyBinds plan) := by
  unfold applyBinds
  cases plan.packageDir with
  | none => exact safe_bindRooms hplan plan.roomBinds 0 hg
  | some packageDir =>
      refine (safe_work (works_bindRo packageDir plan.packageBind false) hg).bind ?_
      intro g₁ answer h₁
      cases answer with
      | error reason =>
          refine (safe_failBinds hplan h₁ _).mono ?_ fun _ _ h => h
          rintro g' answer ⟨herror, hdecided⟩
          rw [BindsDone, herror]
          exact hdecided
      | ok => exact safe_bindRooms hplan plan.roomBinds 0 h₁

lemma safe_mountView (request : AssignRequest) {view : Unassigned}
    (hview : (view.slot, view.corpus) = key) {views : ViewsState} {g : World × Prop}
    (hg : Unmarked views g) :
    Safe ⟨fun _ _ => True, assignAnswers key⟩
      (fun g mounted => Unmarked views g ∧ mounted.key = key)
      (fun g _ => Decided key views g) g (mountView request view) := by
  obtain ⟨hviews, hunmarked⟩ := hg
  refine ⟨trivial, ?_⟩
  rintro r g₁ ⟨hworld, hmark⟩
  have hworld : g₁.1 = g.1 := hworld
  have hviews₁ : g₁.1.views = views := by rw [hworld, hviews]
  have hmark : g₁.2 ↔ r ≠ .ok false ∧ g₁.1.ViewMounted key := hmark.trans (or_iff_right hunmarked)
  rcases r with e | _ | _
  · exact ⟨hviews₁, hmark.trans (and_iff_right nofun)⟩
  · have hg₁ : Unmarked views g₁ := ⟨hviews₁, fun h => (hmark.mp h).1 rfl⟩
    refine (safe_work (straight_perform.mpr rfl) hg₁).bind fun g₂ master h₂ => ?_
    refine (safe_work (straight_perform.mpr rfl) h₂).bind fun g₃ plan h₃ => ?_
    have hplan : (plan.val.slot, plan.val.corpus) = key := by
      rw [plan.property.1, plan.property.2, hview]
    refine (safe_applyBinds hplan h₃).bind fun g₄ answer h₄ => ?_
    cases answer with
    | error reason => exact h₄
    | ok bound => exact ⟨h₄, hplan⟩
  · exact ⟨hviews₁, hmark.trans (and_iff_right nofun)⟩

/-- A save that raises is marked if it was done. -/
lemma safe_recordView (mounted : Mounted) {views : ViewsState} {g : World × Prop}
    (hg : Unmarked views g) (hnew : views.getViewRecord key = none) :
    Safe ⟨fun _ _ => True, assignAnswers key⟩ (fun _ _ => True)
      (fun g _ => g.2 ↔ (g.1.views.getViewRecord key).isSome) g (recordView mounted) := by
  obtain ⟨hviews, hunmarked⟩ := hg
  refine ⟨trivial, ?_⟩
  rintro r g₁ ⟨hworld, hmark⟩
  have hworld : g₁.1 = g.1 := hworld
  have hunmarked₁ : ¬g₁.2 := fun h => (hmark.mp h).elim hunmarked id
  rcases r with e | assignedAt
  · refine iff_of_false hunmarked₁ ?_
    rw [hworld, hviews, hnew]
    exact Bool.false_ne_true
  · refine ⟨trivial, ?_⟩
    rintro r g₂ ⟨-, hmark₂⟩
    rcases r with e | _
    · exact hmark₂.trans ((or_iff_right hunmarked₁).trans (and_iff_right ⟨e, rfl⟩))
    · exact trivial

/-- The marks say whether the view is mounted or recorded. -/
lemma safe_assignView (request : AssignRequest) {view : Unassigned}
    (hview : (view.slot, view.corpus) = key) {g : World × Prop} (hunmarked : ¬g.2)
    (hnew : g.1.views.getViewRecord key = none) :
    Safe ⟨fun _ _ => True, assignAnswers key⟩
      (fun g' code => code ≠ 0 → (g'.2 ↔ g'.1.Exposed key)) (fun _ _ => True) g
      (assignView request view) := by
  -- writing to the action log changes nothing
  have hlog : ∀ (g₁ : World × Prop) (code : Nat), (code ≠ 0 → (g₁.2 ↔ g₁.1.Exposed key)) →
      Safe ⟨fun _ _ => True, assignAnswers key⟩
        (fun g' code => code ≠ 0 → (g'.2 ↔ g'.1.Exposed key)) (fun _ _ => True) g₁
        (do Outside.appendActionLog.run; return code) := by
    intro g₁ code hexposed
    refine ⟨trivial, ?_⟩
    rintro (e | _) g₂ ⟨hworld, hmark⟩
    · exact trivial
    · intro hcode
      have hworld : g₂.1 = g₁.1 := hworld
      rw [hmark, hworld, ← hexposed hcode]
      exact or_iff_left fun h => nomatch h.1.choose_spec
  refine safe_bind.mpr (safe_tryCatch.mpr (safe_bind.mpr
    ((safe_mountView request hview ⟨rfl, hunmarked⟩).mono ?_ ?_)))
  · rintro g₁ mounted ⟨h₁, hkey⟩
    refine safe_bind.mpr (safe_tryCatch.mpr (safe_bind.mpr
      ((safe_recordView mounted h₁ hnew).mono ?_ ?_)))
    · exact fun g₂ _ _ => hlog g₂ 0 fun h => absurd rfl h
    · intro g₂ e hmark
      refine safe_bind.mpr ((safe_unmountView hkey g₂).mono ?_ fun _ _ _ => trivial)
      rintro g₃ errors ⟨hviews, hmark₃⟩
      refine hlog g₃ 1 fun _ => ?_
      rw [hmark₃, hmark, ← hviews]
      exact or_comm
  · rintro g₁ e ⟨hviews, hmark⟩
    refine hlog g₁ 1 fun _ => ?_
    rw [hmark, World.Exposed, hviews, hnew]
    exact (or_iff_left Bool.false_ne_true).symm

/-- A view that was not recorded is neither mounted nor recorded after an assign that failed, and
whose clean-ups could unmount, exactly if none of its steps was one of `Exposes`. -/
theorem assign_exposes {request : AssignRequest} {view : Unassigned} {w w' : World} {code : Nat}
    {marked : Prop} (hnew : w.views.getViewRecord (view.slot, view.corpus) = none)
    (hrun : Ends (assignAnswers (view.slot, view.corpus)) (assignView request view) (w, False)
      (.ok code) (w', marked)) (hcode : code ≠ 0) :
    ((∀ target ∈ w'.mounts, ¬slotEntry view.slot view.corpus <+: target ∧
        ¬viewRoot view.slot view.corpus <+: target) ∧
      w'.views.getViewRecord (view.slot, view.corpus) = none) ↔ ¬marked := by
  have hmarked : marked ↔ w'.Exposed (view.slot, view.corpus) :=
    hrun.of_safe (safe_assignView request rfl (fun h => h) hnew) hcode
  have hmounts : (∀ target ∈ w'.mounts, ¬slotEntry view.slot view.corpus <+: target ∧
      ¬viewRoot view.slot view.corpus <+: target) ↔
      ¬w'.ViewMounted (view.slot, view.corpus) := by
    constructor
    · rintro hnone (⟨target, hmem, hprefix⟩ | ⟨target, hmem, hprefix⟩)
      · exact (hnone target hmem).1 hprefix
      · exact (hnone target hmem).2 hprefix
    · intro hnot target hmem
      exact ⟨fun h => hnot (.inl ⟨target, hmem, h⟩), fun h => hnot (.inr ⟨target, hmem, h⟩)⟩
  rw [hmounts, hmarked, World.Exposed, not_or, Bool.not_eq_true, Option.isSome_eq_false_iff,
    Option.isNone_iff_eq_none]

end assign

/-! ## Two rooms -/

/-- An assign of two rooms. -/
def twoRooms : AssignRequest where
  slot := "oc1"
  share := "//nas/kakao-work"
  userId := "user"
  paths := ["first", "second"]

/-- No view is recorded for the slot. -/
def unassigned : Unassigned where
  views := emptyHost.views
  slot := "oc1"
  share := { host := "nas", share := "kakao-work" }
  corpus := .kakao

/-- A clean-up can unmount what it unmounts. -/
def cleanCheck (raises : Op → Bool) (op : Op) (w : World) : Bool :=
  match op with
  | .umount .cleanUp target => !raises (.umount .cleanUp target) && target ∈ w.mounts
  | _ => true

lemma answer_cleanOutcome (raises : Op → Bool) (op : Op) (w : World)
    (h : cleanCheck raises op w = true) :
    CleanOutcome w op (answer raises op w).1 (answer raises op w).2 := by
  have houtcome := answer_outcome raises op w
  cases op with
  | umount purpose target =>
      cases purpose with
      | work => exact houtcome
      | cleanUp =>
          obtain ⟨hraises, hmem⟩ := Bool.and_eq_true_iff.mp h
          refine ⟨?_, houtcome⟩
          unfold answer
          rw [if_neg (by simpa using hraises)]
          dsimp only
          rw [if_pos (of_decide_eq_true hmem)]
  | _ => exact houtcome

/-- The operation binds the second of the rooms. -/
def Op.bindsSecond : Op → Bool
  | .bind _ _ target => target == viewRoot "oc1" .kakao ++ ["second"]
  | _ => false

/-- The bind of the second room raises: the assign returns 1, and the first room stays mounted. -/
theorem room_left : ∃ w',
    Ends CleanOutcome (assignView twoRooms unassigned) emptyHost (.ok 1) w' ∧
    viewRoot "oc1" .kakao ++ ["first"] ∈ w'.mounts ∧
    w'.views.getViewRecord ("oc1", .kakao) = none := by
  have hends := ends_eval_of_steps (answer_cleanOutcome Op.bindsSecond)
    (p := assignView twoRooms unassigned) (w := emptyHost) (by decide)
  have hcode : (eval (answer Op.bindsSecond) (assignView twoRooms unassigned) emptyHost).1 =
      .ok 1 := by
    decide
  rw [hcode] at hends
  exact ⟨_, hends, by decide, by decide⟩

/-- A host where the second of the rooms cannot be made read-only, and all else succeeds. -/
def busyAnswer (op : Op) (w : World) : Except Raised op.Res × World :=
  match op with
  | .remount target =>
      (.ok (if target = viewRoot "oc1" .kakao ++ ["second"] then .error "busy" else .ok ()), w)
  | op => answer (fun _ => false) op w

lemma busyAnswer_cleanOutcome (op : Op) (w : World)
    (h : cleanCheck (fun _ => false) op w = true) :
    CleanOutcome w op (busyAnswer op w).1 (busyAnswer op w).2 := by
  have hanswer := answer_cleanOutcome (fun _ => false) op w h
  cases op with
  | remount target => exact rfl
  | _ => exact hanswer

/-- The remount of the second room fails: the assign returns 1, and nothing is left. -/
theorem rooms_taken_down : ∃ w' marked,
    Ends (assignAnswers ("oc1", .kakao)) (assignView twoRooms unassigned) (emptyHost, False) (.ok 1)
      (w', marked) ∧
    ((∀ target ∈ w'.mounts, ¬slotEntry "oc1" .kakao <+: target ∧
        ¬viewRoot "oc1" .kakao <+: target) ∧
      w'.views.getViewRecord ("oc1", .kakao) = none) ∧ ¬marked := by
  have hends := ends_eval_of_steps busyAnswer_cleanOutcome (p := assignView twoRooms unassigned)
    (w := emptyHost) (by decide +kernel)
  have hcode : (eval busyAnswer (assignView twoRooms unassigned) emptyHost).1 = .ok 1 := by
    decide +kernel
  rw [hcode] at hends
  obtain ⟨marked, hmarked⟩ := @Ends.marked _ _ _ _ _ _ (Exposes ("oc1", .kakao)) _ _ _ _ hends False
  have hiff := @assign_exposes _ unassigned _ _ _ _ rfl hmarked (by decide)
  have hclean : (∀ target ∈ (eval busyAnswer (assignView twoRooms unassigned) emptyHost).2.mounts,
        ¬slotEntry "oc1" .kakao <+: target ∧ ¬viewRoot "oc1" .kakao <+: target) ∧
      (eval busyAnswer (assignView twoRooms unassigned) emptyHost).2.views.getViewRecord
        ("oc1", .kakao) = none := by
    decide +kernel
  exact ⟨_, marked, hmarked, hclean, hiff.mp hclean⟩

end AgentRuntimeOps.NasView
