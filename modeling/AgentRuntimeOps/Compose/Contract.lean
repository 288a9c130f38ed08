import AgentRuntimeOps.Compose.Syntaxes

/-!
# What the checks of volumes cover

A check examines the first volume whose target is spelled as the profile spells it, and no other.
So a volume in long syntax is judged as in short syntax unless it is examined and read another way,
and what is not examined has to be right by itself.
-/

namespace AgentRuntimeOps.Compose

open AgentRuntimeOps.Lib
open AgentRuntimeOps.Nas (Yaml getField)

variable [YamlText] {ctx : Context} {volumes front back : List Yaml} {x y : Yaml} {target : Text}

/-! ## The volume that is examined -/

/-- The volume has the target, and none in front of it has. -/
def IsFirst (target : Text) (front : List Yaml) (volume : Yaml) : Prop :=
  volumeTarget volume = target ∧ volumesAt front target = []

lemma volumesAt_append :
    volumesAt (front ++ back) target = volumesAt front target ++ volumesAt back target :=
  List.filter_append _ _

lemma volumesAt_cons_self (h : volumeTarget x = target) :
    volumesAt (x :: back) target = x :: volumesAt back target :=
  List.filter_cons_of_pos (decide_eq_true h)

lemma volumesAt_cons_of_ne (h : volumeTarget x ≠ target) :
    volumesAt (x :: back) target = volumesAt back target :=
  List.filter_cons_of_neg (by simpa using h)

/-- Two volumes that are compared with the same targets and sources. -/
structure Alike (x y : Yaml) : Prop where
  target : volumeTarget x = volumeTarget y
  source : volumeSource x = volumeSource y
  output : containsSourceOutput x = containsSourceOutput y

lemma alike_long (volume : ShortVolume) : Alike (.str volume.text) volume.long where
  target := (volumeTarget_text volume).trans (volumeTarget_long volume).symm
  source := (volumeSource_text volume).trans (volumeSource_long volume).symm
  output := Bool.eq_iff_iff.mpr
    ((containsSourceOutput_text volume).trans (containsSourceOutput_long volume).symm)

/-- One volume in the place of another is examined where the other was. -/
lemma Alike.volumesAt_cases (h : Alike x y) (target : Text) :
    (volumesAt (front ++ x :: back) target = volumesAt (front ++ y :: back) target ∧
      volumeTarget x ≠ target) ∨
    (volumeTarget x = target ∧
      volumesAt (front ++ x :: back) target =
        volumesAt front target ++ x :: volumesAt back target ∧
      volumesAt (front ++ y :: back) target =
        volumesAt front target ++ y :: volumesAt back target) := by
  by_cases hx : volumeTarget x = target
  · refine .inr ⟨hx, ?_, ?_⟩
    · rw [volumesAt_append, volumesAt_cons_self hx]
    · rw [volumesAt_append, volumesAt_cons_self (h.target ▸ hx)]
  · refine .inl ⟨?_, hx⟩
    rw [volumesAt_append, volumesAt_append, volumesAt_cons_of_ne hx,
      volumesAt_cons_of_ne (h.target ▸ hx)]

/-- The required propagation is found in both or in none. -/
def SamePropagation (ctx : Context) (x y : Yaml) : Prop :=
  ctx.requiredPropagation ≠ [] →
    propagationMatches (volumePropagation x) ctx.requiredPropagation =
      propagationMatches (volumePropagation y) ctx.requiredPropagation

lemma propagationCheck_iff (name : String) :
    (propagationCheck ctx name x).map ComposeContractCheck.verdict =
        (propagationCheck ctx name y).map ComposeContractCheck.verdict ↔
      SamePropagation ctx x y := by
  unfold propagationCheck SamePropagation ComposeContractCheck.verdict
  split_ifs with h
  · exact iff_of_true rfl fun hne => absurd h hne
  · simp [h]

lemma length_propagationCheck (name : String) : (propagationCheck ctx name x).length =
    if ctx.requiredPropagation = [] then 0 else 1 := by
  unfold propagationCheck
  split_ifs <;> rfl

/-! ## One volume in the place of another -/

section replaced

lemma nasChecks_iff (h : Alike x y) :
    (nasChecks ctx (front ++ x :: back)).map ComposeContractCheck.verdict =
        (nasChecks ctx (front ++ y :: back)).map ComposeContractCheck.verdict ↔
      (IsFirst ctx.nasRoot front x →
        (ctx.requiresReadOnly = true → volumeIsReadOnly x = volumeIsReadOnly y) ∧
          SamePropagation ctx x y) := by
  unfold nasChecks IsFirst
  obtain ⟨heq, hx⟩ | ⟨hx, hvolumes, hvolumes'⟩ := h.volumesAt_cases ctx.nasRoot
  · rw [heq]
    exact iff_of_true rfl fun hfirst => absurd hfirst.1 hx
  · rw [hvolumes, hvolumes']
    cases hfront : volumesAt front ctx.nasRoot with
    | cons first rest => simp
    | nil =>
        simp only [List.nil_append, hx, true_and, true_implies, h.source, ne_eq, reduceCtorEq,
          not_false_eq_true]
        rw [List.map_cons, List.map_cons, List.cons_inj_right, List.map_append, List.map_append,
          List.map_append, List.map_append]
        cases ctx.requiresReadOnly with
        | false =>
            rw [if_neg Bool.false_ne_true, if_neg Bool.false_ne_true, List.map_nil,
              List.nil_append, List.nil_append, List.append_left_inj, propagationCheck_iff]
            exact (and_iff_right nofun).symm
        | true =>
            rw [if_pos rfl, if_pos rfl, List.append_left_inj]
            simp only [List.map_cons, List.map_nil, List.cons_append, List.nil_append,
              List.cons.injEq, propagationCheck_iff]
            simp [ComposeContractCheck.verdict]

lemma workspaceChecks_iff (h : Alike x y) :
    (workspaceChecks ctx (front ++ x :: back)).map ComposeContractCheck.verdict =
        (workspaceChecks ctx (front ++ y :: back)).map ComposeContractCheck.verdict ↔
      (ctx.workspaceRoot ≠ [] → IsFirst ctx.workspaceRoot front x →
        volumeIsReadOnly x = volumeIsReadOnly y ∧ SamePropagation ctx x y) := by
  unfold workspaceChecks IsFirst
  by_cases hroot : ctx.workspaceRoot = []
  · rw [if_pos hroot, if_pos hroot]
    exact iff_of_true rfl fun hne => absurd hroot hne
  · rw [if_neg hroot, if_neg hroot]
    obtain ⟨heq, hx⟩ | ⟨hx, hvolumes, hvolumes'⟩ := h.volumesAt_cases ctx.workspaceRoot
    · rw [heq]
      exact iff_of_true rfl fun _ hfirst => absurd hfirst.1 hx
    · rw [hvolumes, hvolumes']
      cases hfront : volumesAt front ctx.workspaceRoot with
      | cons first rest => simp
      | nil =>
          simp only [List.nil_append, hx, true_and, true_implies, h.source, ne_eq, reduceCtorEq,
            not_false_eq_true, hroot]
          rw [List.map_cons, List.map_cons, List.cons_inj_right, List.map_append, List.map_append]
          simp only [List.map_cons, List.map_nil, List.cons_append, List.nil_append,
            List.cons.injEq, propagationCheck_iff]
          simp [ComposeContractCheck.verdict]

/-- No other volume has the target. -/
def IsOnly (target : Text) (front : List Yaml) (volume : Yaml) (back : List Yaml) : Prop :=
  IsFirst target front volume ∧ volumesAt back target = []

lemma socketChecks_iff (h : Alike x y) :
    (socketChecks ctx (front ++ x :: back)).map ComposeContractCheck.verdict =
        (socketChecks ctx (front ++ y :: back)).map ComposeContractCheck.verdict ↔
      ∀ socket, ctx.projection = .ok (some socket) → IsOnly socket.target front x back →
        (volumeType x = Text.of "bind" ↔ volumeType y = Text.of "bind") ∧
          volumeIsReadOnly x = volumeIsReadOnly y := by
  unfold socketChecks IsOnly IsFirst
  cases ctx.projection with
  | error reason => exact iff_of_true rfl nofun
  | ok projection =>
      cases projection with
      | none => exact iff_of_true rfl nofun
      | some socket =>
          simp only [Except.ok.injEq, Option.some.injEq, forall_eq']
          obtain ⟨heq, hx⟩ | ⟨hx, hvolumes, hvolumes'⟩ := h.volumesAt_cases socket.target
          · rw [heq]
            exact iff_of_true rfl fun honly => absurd honly.1.1 hx
          · rw [hvolumes, hvolumes']
            cases hfront : volumesAt front socket.target with
            | cons first rest => simp
            | nil =>
                cases hback : volumesAt back socket.target with
                | cons next rest => simp
                | nil => simp [ComposeContractCheck.verdict, hx, h.source]

lemma sourceChecks_eq (h : Alike x y) :
    (sourceChecks ctx (front ++ x :: back)).map ComposeContractCheck.verdict =
      (sourceChecks ctx (front ++ y :: back)).map ComposeContractCheck.verdict := by
  have hany : ∀ p : Yaml → Bool, p x = p y →
      ((front ++ x :: back).filter containsSourceOutput).any p =
        ((front ++ y :: back).filter containsSourceOutput).any p := by
    intro p hp
    rw [List.filter_append, List.filter_append, List.filter_cons, List.filter_cons, h.output]
    split_ifs <;> simp [hp]
  have hnil : (front ++ x :: back).filter containsSourceOutput = [] ↔
      (front ++ y :: back).filter containsSourceOutput = [] := by
    simp only [List.filter_eq_nil_iff, List.forall_mem_append, List.forall_mem_cons, h.output]
  unfold sourceChecks
  split
  · split_ifs
    · simp only [List.map_cons, List.map_nil, ComposeContractCheck.verdict, hnil]
    · simp only [List.map_cons, List.map_nil, ComposeContractCheck.verdict, ne_eq, hnil]
      rw [hany _ (by rw [h.target])]
    · rfl
  · rfl

/-- Where one volume is judged as another in its place. -/
structure JudgedAlike (ctx : Context) (front : List Yaml) (x : Yaml) (back : List Yaml) (y : Yaml) :
    Prop where
  nas : IsFirst ctx.nasRoot front x →
    (ctx.requiresReadOnly = true → volumeIsReadOnly x = volumeIsReadOnly y) ∧
      SamePropagation ctx x y
  workspace : ctx.workspaceRoot ≠ [] → IsFirst ctx.workspaceRoot front x →
    volumeIsReadOnly x = volumeIsReadOnly y ∧ SamePropagation ctx x y
  socket : ∀ socket, ctx.projection = .ok (some socket) → IsOnly socket.target front x back →
    (volumeType x = Text.of "bind" ↔ volumeType y = Text.of "bind") ∧
      volumeIsReadOnly x = volumeIsReadOnly y

lemma length_socketChecks (volumes volumes' : List Yaml) :
    (socketChecks ctx volumes).length = (socketChecks ctx volumes').length := by
  unfold socketChecks
  cases ctx.projection with
  | error reason => rfl
  | ok projection => cases projection <;> rfl

lemma length_nasChecks (h : Alike x y) : (nasChecks ctx (front ++ x :: back)).length =
    (nasChecks ctx (front ++ y :: back)).length := by
  unfold nasChecks
  obtain ⟨heq, -⟩ | ⟨-, hvolumes, hvolumes'⟩ := h.volumesAt_cases ctx.nasRoot
  · rw [heq]
  · rw [hvolumes, hvolumes']
    cases volumesAt front ctx.nasRoot with
    | cons first rest => simp
    | nil => cases ctx.requiresReadOnly <;> simp [length_propagationCheck]

/-- The verdicts stay the same where the volume is judged alike. -/
theorem verdicts_eq_iff (h : Alike x y) :
    verdicts ctx (front ++ x :: back) = verdicts ctx (front ++ y :: back) ↔
      JudgedAlike ctx front x back y := by
  unfold verdicts volumeChecks
  simp only [List.map_append, sourceChecks_eq h, List.append_left_inj]
  constructor
  · intro heq
    obtain ⟨heq, hworkspace⟩ := List.append_inj heq
      (by simp [length_socketChecks (front ++ x :: back) (front ++ y :: back), length_nasChecks h])
    obtain ⟨hsocket, hnas⟩ := List.append_inj heq
      (by simp [length_socketChecks (front ++ x :: back) (front ++ y :: back)])
    exact ⟨(nasChecks_iff h).mp hnas, (workspaceChecks_iff h).mp hworkspace,
      (socketChecks_iff h).mp hsocket⟩
  · intro hjudged
    rw [(nasChecks_iff h).mpr hjudged.nas, (workspaceChecks_iff h).mpr hjudged.workspace,
      (socketChecks_iff h).mpr hjudged.socket]

end replaced

/-! ## Both syntaxes -/

/-- The short syntax hides nothing that is examined: `ro` stands in front of no other option, a
required `rprivate` is not asked for, and the socket is no named volume. -/
structure SpeltOut (ctx : Context) (front : List Yaml) (volume : ShortVolume) (back : List Yaml) :
    Prop where
  nas : IsFirst ctx.nasRoot front (.str volume.text) →
    (ctx.requiresReadOnly = true → ¬volume.RoFirst) ∧
      (ctx.requiredPropagation = Text.of "rprivate" → Text.of "rprivate" ∉ volume.options)
  workspace : ctx.workspaceRoot ≠ [] → IsFirst ctx.workspaceRoot front (.str volume.text) →
    ¬volume.RoFirst ∧
      (ctx.requiredPropagation = Text.of "rprivate" → Text.of "rprivate" ∉ volume.options)
  socket : ∀ socket, ctx.projection = .ok (some socket) →
    IsOnly socket.target front (.str volume.text) back →
      volume.isNamed = false ∧ ¬volume.RoFirst

section syntaxes

variable (volume : ShortVolume)

omit [YamlText] in
lemma sameReadOnly_iff :
    volumeIsReadOnly (.str volume.text) = volumeIsReadOnly volume.long ↔ ¬volume.RoFirst := by
  rw [Bool.eq_iff_iff, volumeIsReadOnly_text, volumeIsReadOnly_long]
  constructor
  · rintro h ⟨option, rest, hoptions, hfree⟩
    exact (h.mpr (hoptions ▸ List.mem_cons_self)).2 ⟨option, rest, hoptions, hfree⟩
  · exact fun h => and_iff_left h

/-- `rprivate` is only missed where it is required. -/
lemma matches_rprivate_iff :
    (ctx.requiredPropagation ≠ [] →
      propagationMatches (([Text.of "rprivate"].find? (· ∈ knownPropagations)).getD [])
          ctx.requiredPropagation =
        propagationMatches (([Text.of "rprivate"].head?).getD []) ctx.requiredPropagation) ↔
      (ctx.requiredPropagation = Text.of "rprivate" →
        Text.of "rprivate" ∉ [Text.of "rprivate"]) := by
  generalize ctx.requiredPropagation = required
  by_cases hrequired : required = Text.of "rprivate"
  · subst hrequired
    exact iff_of_false (by decide) (by decide)
  · have hread : ([Text.of "rprivate"].find? (· ∈ knownPropagations)).getD [] = [] := by decide
    refine iff_of_true (fun hne => ?_) fun heq => absurd heq hrequired
    rw [hread]
    show propagationMatches [] required = propagationMatches (Text.of "rprivate") required
    unfold propagationMatches
    dsimp only
    rw [if_neg hne, if_neg hne]
    split_ifs
    · decide
    · decide
    · rw [decide_eq_false (Ne.symm hne), decide_eq_false (Ne.symm hrequired)]

lemma samePropagation_iff : SamePropagation ctx (.str volume.text) volume.long ↔
    (ctx.requiredPropagation = Text.of "rprivate" → Text.of "rprivate" ∉ volume.options) := by
  have hknown : volume.options.find? (· ∈ knownPropagations) =
      (volume.options.filter (· ∈ propagations)).find? (· ∈ knownPropagations) := by
    have hsub : ∀ mode ∈ knownPropagations, mode ∈ propagations := by decide
    rw [List.find?_filter]
    congr 1
    funext mode
    rw [decide_eq_decide, decide_eq_true_iff, decide_eq_true_iff]
    exact (and_iff_right_of_imp (hsub mode)).symm
  have hmode : volume.options.find? (· ∈ propagations) =
      (volume.options.filter (· ∈ propagations)).head? := List.head?_filter.symm
  have hprivate : Text.of "rprivate" ∈ volume.options ↔
      Text.of "rprivate" ∈ volume.options.filter (· ∈ propagations) := by
    rw [List.mem_filter]
    exact (and_iff_left (by decide)).symm
  have hall : ∀ mode ∈ volume.options.filter (· ∈ propagations), mode ∈ propagations :=
    fun mode hmem => decide_eq_true_iff.mp (List.mem_filter.mp hmem).2
  have hone := volume.one_mode
  unfold SamePropagation
  rw [volumePropagation_text, volumePropagation_long, ShortVolume.propagation, hknown, hmode,
    hprivate]
  generalize volume.options.filter (· ∈ propagations) = modes at hall hone
  cases modes with
  | nil => exact iff_of_true (fun _ => rfl) fun _ => List.not_mem_nil
  | cons mode rest =>
      obtain rfl : rest = [] := List.length_eq_zero_iff.mp (by simpa using hone)
      by_cases hmode : mode = Text.of "rprivate"
      · subst hmode
        exact matches_rprivate_iff
      · have hread : mode ∈ knownPropagations :=
          (by decide : ∀ mode ∈ propagations, mode ≠ Text.of "rprivate" → mode ∈ knownPropagations)
            mode (hall mode List.mem_cons_self) hmode
        refine iff_of_true (fun _ => ?_) fun _ hmem => hmode (List.mem_singleton.mp hmem).symm
        rw [List.find?_cons_of_pos (by simpa using hread)]
        rfl

/-- A volume in long syntax is judged alike where the short syntax hides nothing. -/
lemma judgedAlike_iff : JudgedAlike ctx front (.str volume.text) back volume.long ↔
    SpeltOut ctx front volume back := by
  have htype : (volumeType (.str volume.text) = Text.of "bind" ↔
      volumeType volume.long = Text.of "bind") ↔ volume.isNamed = false := by
    rw [volumeType_long]
    cases volume.isNamed with
    | true => exact iff_of_false (by rw [volumeType]; decide) nofun
    | false => exact iff_of_true Iff.rfl rfl
  constructor
  · rintro ⟨hnas, hworkspace, hsocket⟩
    simp only [sameReadOnly_iff, samePropagation_iff, htype] at hnas hworkspace hsocket
    exact ⟨hnas, hworkspace, hsocket⟩
  · rintro ⟨hnas, hworkspace, hsocket⟩
    refine ⟨?_, ?_, ?_⟩ <;> simp only [sameReadOnly_iff, samePropagation_iff, htype]
    · exact hnas
    · exact hworkspace
    · exact hsocket

end syntaxes

end AgentRuntimeOps.Compose
