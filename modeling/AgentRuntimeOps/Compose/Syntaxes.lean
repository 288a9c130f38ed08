import AgentRuntimeOps.Compose.Volumes

/-!
# Two syntaxes of a volume

A volume in short syntax has a long form that means the same.  The checks read both alike, but for
`ro` in front of other options, for `rprivate`, and for the type of a named volume.
-/

namespace AgentRuntimeOps.Compose

open AgentRuntimeOps.Lib
open AgentRuntimeOps.Nas (Yaml getField valueOf)

/-! ## Texts with separators -/

section separators

variable {word s t : Text} {c : Nat}

/-- A word without the separator is on one side of it. -/
lemma infix_append_cons (hword : c ∉ word) : word <:+: s ++ c :: t ↔ word <:+: s ∨ word <:+: t := by
  constructor
  · rintro ⟨front, back, heq⟩
    rw [List.append_assoc] at heq
    obtain ⟨rest, hs, hrest⟩ | ⟨rest, hfront, hrest⟩ := List.append_eq_append_iff.mp heq
    · obtain ⟨after, hafter, hback⟩ | ⟨after, hword', hback⟩ := List.append_eq_append_iff.mp hrest
      · refine .inl ⟨front, after, ?_⟩
        rw [hs, hafter, List.append_assoc]
      · cases after with
        | nil =>
            refine .inl ⟨front, [], ?_⟩
            rw [hs, hword', List.append_nil, List.append_nil]
        | cons d after =>
            obtain ⟨rfl, -⟩ := List.cons.inj hback
            exact absurd (by rw [hword']; simp) hword
    · cases rest with
      | nil =>
          cases word with
          | nil => exact .inl List.nil_infix
          | cons d word =>
              obtain ⟨rfl, -⟩ := List.cons.inj hrest
              exact absurd List.mem_cons_self hword
      | cons d rest =>
          obtain ⟨rfl, hback⟩ := List.cons.inj hrest
          exact .inr ⟨rest, back, by rw [List.append_assoc]; exact hback.symm⟩
  · rintro (h | h)
    · exact h.trans (List.prefix_append _ _).isInfix
    · exact h.trans ((List.suffix_cons _ _).trans (List.suffix_append _ _)).isInfix

/-- A word is in one of the pieces. -/
lemma infix_intercalate {pieces : List Text} (hword : c ∉ word) (hne : word ≠ []) :
    word <:+: [c].intercalate pieces ↔ ∃ piece ∈ pieces, word <:+: piece := by
  induction pieces with
  | nil => simp [hne]
  | cons piece rest ih =>
      cases rest with
      | nil => simp
      | cons next rest =>
          rw [List.intercalate_cons_cons, List.append_assoc, List.singleton_append,
            infix_append_cons hword, ih, List.exists_mem_cons_iff _ piece]

lemma intercalate_append {xs ys : List Text} (hxs : xs ≠ []) (hys : ys ≠ []) :
    [c].intercalate (xs ++ ys) = [c].intercalate xs ++ c :: [c].intercalate ys := by
  induction xs with
  | nil => exact absurd rfl hxs
  | cons x rest ih =>
      cases rest with
      | nil =>
          rw [List.singleton_append, List.intercalate_cons_of_ne_nil hys,
            List.intercalate_singleton, List.append_assoc, List.singleton_append]
      | cons next rest =>
          rw [List.cons_append, List.cons_append, List.intercalate_cons_cons, ← List.cons_append,
            ih (List.cons_ne_nil _ _), List.intercalate_cons_cons]
          simp

end separators

/-! ## Volumes -/

/-- The modes of a mount. -/
def propagations : List Text :=
  ["private", "rprivate", "shared", "rshared", "slave", "rslave"].map Text.of

/-- The options of the short syntax. -/
def volumeOptions : List Text :=
  ["ro", "rw", "z", "Z", "nocopy", "cached", "delegated", "consistent"].map Text.of ++ propagations

/-- A volume in short syntax, which asks for one mode at most and not for both kinds of access. -/
structure ShortVolume where
  source : Text
  target : Text
  options : List Text
  source_free : 58 ∉ source
  target_free : 58 ∉ target
  known : ∀ option ∈ options, option ∈ volumeOptions
  one_mode : (options.filter (· ∈ propagations)).length ≤ 1
  one_access : Text.of "ro" ∉ options ∨ Text.of "rw" ∉ options

namespace ShortVolume

variable (volume : ShortVolume)

/-- `source:target[:options]` -/
def text : Text :=
  volume.source ++ 58 :: (volume.target ++
    if volume.options = [] then [] else 58 :: [44].intercalate volume.options)

/-- The mode that is asked for. -/
def propagation : Option Text := volume.options.find? (· ∈ propagations)

/-- The source is the name of a volume, and no path. -/
def isNamed : Bool :=
  match volume.source with
  | [] => false
  | first :: rest =>
      let isPlain := fun c : Nat => (48 ≤ c && c ≤ 57) || (65 ≤ c && c ≤ 90) || (97 ≤ c && c ≤ 122)
      isPlain first && rest.all fun c => isPlain c || c == 46 || c == 95 || c == 45

/-- A field whose value is a text. -/
def field (name : String) (value : Text) : Yaml × Yaml := (.str (Text.of name), .str value)

/-- The fields of a bind mount. -/
def bindFields : List (Yaml × Yaml) :=
  (volume.propagation.toList.map (field "propagation")) ++
    ((volume.options.filter (· ∈ [Text.of "z", Text.of "Z"])).map (field "selinux"))

/-- The fields of the long syntax. -/
def longFields : List (Yaml × Yaml) :=
  [field "type" (Text.of (if volume.isNamed then "volume" else "bind")),
    field "source" volume.source, field "target" volume.target] ++
    (if Text.of "ro" ∈ volume.options then
      [(.str (Text.of "read_only"), .other (Text.of "True") true)] else []) ++
    (if volume.bindFields = [] then [] else [(.str (Text.of "bind"), .dict volume.bindFields)]) ++
    (if Text.of "nocopy" ∈ volume.options then
      [(.str (Text.of "volume"),
        .dict [(.str (Text.of "nocopy"), .other (Text.of "True") true)])] else []) ++
    ((volume.options.filter (· ∈ ["cached", "delegated", "consistent"].map Text.of)).map
      (field "consistency"))

/-- The same volume in long syntax. -/
def long : Yaml := .dict volume.longFields

/-- `ro` stands in front of other options. -/
def RoFirst : Prop :=
  ∃ option rest, volume.options = Text.of "ro" :: option :: rest ∧ Text.of "ro" ∉ option :: rest

end ShortVolume

/-! ## The short syntax -/

section short

variable (volume : ShortVolume)

lemma splitOn_free {c : Nat} {t : Text} (h : c ∉ t) : t.splitOn c = [t] := by
  rw [List.splitOn_eq_splitOnP, List.splitOnP_eq_singleton]
  exact fun d hd => beq_eq_false_iff_ne.mpr fun heq => h (heq ▸ hd)

lemma option_free {option : Text} (h : option ∈ volumeOptions) : 58 ∉ option ∧ 44 ∉ option :=
  (by decide : ∀ option ∈ volumeOptions, 58 ∉ option ∧ 44 ∉ option) option h

lemma options_free : 58 ∉ [44].intercalate volume.options := by
  intro hmem
  obtain heq | ⟨option, hoption, hmem⟩ := Text.mem_intercalate hmem
  · cases heq
  · exact (option_free (volume.known option hoption)).1 hmem

lemma splitOn_options (h : volume.options ≠ []) :
    ([44].intercalate volume.options).splitOn 44 = volume.options :=
  List.splitOn_intercalate 44 (fun _ hoption => (option_free (volume.known _ hoption)).2) h

lemma partsOf_text : partsOf volume.text = volume.source :: volume.target ::
    if volume.options = [] then [] else [[44].intercalate volume.options] := by
  have hcut : ∀ {s t : Text}, 58 ∉ s → partsOf (s ++ 58 :: t) = s :: partsOf t := by
    intro s t hs
    unfold partsOf
    rw [List.splitOn_eq_splitOnP, List.splitOnP_append_cons _ _ (by decide),
      ← List.splitOn_eq_splitOnP, splitOn_free hs, List.singleton_append,
      List.splitOn_eq_splitOnP]
  unfold ShortVolume.text
  rw [hcut volume.source_free]
  split_ifs with hnil
  · rw [List.append_nil, partsOf, splitOn_free volume.target_free]
  · rw [hcut volume.target_free, partsOf, splitOn_free (options_free volume)]

/-- The options of a text are joined by commas. -/
lemma ro_iff (hne : volume.options ≠ []) :
    ([44].intercalate volume.options = Text.of "ro" ∨
      Text.of ",ro" <:+ [44].intercalate volume.options ∨
      Text.of ",ro," <:+: [44].intercalate volume.options) ↔
    volume.options = [Text.of "ro"] ∨ Text.of "ro" ∈ volume.options.tail := by
  have hsplit := splitOn_options volume hne
  have hcut : ∀ s t : Text, (s ++ 44 :: t).splitOn 44 = s.splitOn 44 ++ t.splitOn 44 := by
    intro s t
    rw [List.splitOn_eq_splitOnP, List.splitOnP_append_cons _ _ (by decide)]
    rfl
  have htail : ∀ s t : Text, t ∈ (s.splitOn 44 ++ [t]).tail := by
    intro s t
    rw [List.tail_append_of_ne_nil (List.splitOn_ne_nil _ _)]
    simp
  have hro : (Text.of "ro").splitOn 44 = [Text.of "ro"] := by decide
  constructor
  · rintro (heq | ⟨front, heq⟩ | ⟨front, back, heq⟩)
    · left
      rw [← hsplit, heq, hro]
    · right
      rw [← hsplit, ← heq, show Text.of ",ro" = 44 :: Text.of "ro" from rfl, hcut, hro]
      exact htail _ _
    · right
      have hparts : front ++ Text.of ",ro," ++ back =
          (front ++ 44 :: Text.of "ro") ++ 44 :: back := by
        simp [Text.of, Text.ofChars]
      rw [← hsplit, ← heq, hparts, hcut, hcut, hro,
        List.tail_append_of_ne_nil (List.append_ne_nil_of_right_ne_nil _ (List.cons_ne_nil _ _))]
      exact List.mem_append_left _ (htail _ _)
  · rintro (heq | hmem)
    · rw [heq]
      exact .inl rfl
    · obtain ⟨first, rest, hoptions⟩ := List.exists_cons_of_ne_nil hne
      rw [hoptions] at hmem ⊢
      obtain ⟨front, back, rfl⟩ := List.append_of_mem hmem
      rw [← List.cons_append, intercalate_append (List.cons_ne_nil _ _) (List.cons_ne_nil _ _)]
      right
      cases back with
      | nil => exact .inl ⟨_, rfl⟩
      | cons next back =>
          rw [List.intercalate_cons_cons]
          refine .inr ⟨[44].intercalate (first :: front), [44].intercalate (next :: back), ?_⟩
          simp [Text.of, Text.ofChars]

/-- What is written as read-only is read so, unless other options follow. -/
lemma volumeIsReadOnly_text : volumeIsReadOnly (.str volume.text) = true ↔
    Text.of "ro" ∈ volume.options ∧ ¬volume.RoFirst := by
  rw [volumeIsReadOnly, partsOf_text]
  by_cases hnil : volume.options = []
  · simp [hnil]
  · rw [if_neg hnil, List.drop_succ_cons, List.drop_succ_cons, List.drop_zero, List.any_cons,
      List.any_nil, Bool.or_false, decide_eq_true_iff, ro_iff volume hnil]
    unfold ShortVolume.RoFirst
    obtain ⟨first, rest, hoptions⟩ := List.exists_cons_of_ne_nil hnil
    rw [hoptions, List.tail_cons]
    constructor
    · rintro (heq | hmem)
      · obtain ⟨rfl, rfl⟩ := List.cons.inj heq
        refine ⟨List.mem_cons_self, ?_⟩
        rintro ⟨option, more, heq, -⟩
        cases heq
      · refine ⟨List.mem_cons_of_mem _ hmem, ?_⟩
        rintro ⟨option, more, heq, hfree⟩
        obtain ⟨-, rfl⟩ := List.cons.inj heq
        exact hfree hmem
    · rintro ⟨hmem, hfirst⟩
      obtain rfl | hrest := List.mem_cons.mp hmem
      · cases rest with
        | nil => exact .inl rfl
        | cons option more =>
            refine .inr (not_not.mp fun hfree => hfirst ⟨option, more, rfl, hfree⟩)
      · exact .inr hrest

variable [YamlText]

lemma volumeTarget_text : volumeTarget (.str volume.text) = volume.target := by
  rw [volumeTarget, partsOf_text]
  rfl

lemma volumeSource_text : volumeSource (.str volume.text) = volume.source := by
  rw [volumeSource, partsOf_text]
  rfl

lemma volumePropagation_text : volumePropagation (.str volume.text) =
    (volume.options.find? (· ∈ knownPropagations)).getD [] := by
  rw [volumePropagation, partsOf_text]
  by_cases hnil : volume.options = []
  · simp [hnil]
  · rw [if_neg hnil, List.drop_succ_cons, List.drop_succ_cons, List.drop_zero,
      List.flatMap_singleton, splitOn_options volume hnil]

omit [YamlText] in
lemma containsSourceOutput_text : containsSourceOutput (.str volume.text) = true ↔
    sourceOutput <:+: volume.source ∨ sourceOutput <:+: volume.target := by
  have hfree : 58 ∉ sourceOutput ∧ 44 ∉ sourceOutput ∧ sourceOutput ≠ [] := by decide
  have hoption : ∀ option ∈ volumeOptions, ¬sourceOutput <:+: option := by decide
  have hoptions : ¬sourceOutput <:+: [44].intercalate volume.options := by
    rw [infix_intercalate hfree.2.1 hfree.2.2]
    rintro ⟨option, hmem, hinfix⟩
    exact hoption option (volume.known option hmem) hinfix
  rw [containsSourceOutput, decide_eq_true_iff, ShortVolume.text, infix_append_cons hfree.1]
  refine or_congr_right ?_
  split_ifs with hnil
  · rw [List.append_nil]
  · rw [infix_append_cons hfree.1]
    exact or_iff_left hoptions

end short

/-! ## The long syntax -/

section long

variable (volume : ShortVolume)

lemma of_injective : Function.Injective Text.of := fun _ _ h =>
  String.toList_inj.mp (List.map_injective_iff.mpr (fun _ _ => Char.toNat_inj.mp) h)

lemma valueOf_pair (name other : String) (value : Yaml) :
    valueOf (Text.of other) (.str (Text.of name), value) =
      if name = other then some value else none := by
  unfold valueOf
  simp only [of_injective.eq_iff]

/-- Fields of another name are not found. -/
lemma findSome_field {name other : String} (h : name ≠ other) (values : List Text) :
    (values.map (ShortVolume.field name)).findSome? (valueOf (Text.of other)) = none := by
  rw [List.findSome?_eq_none_iff]
  intro field hfield
  obtain ⟨value, -, rfl⟩ := List.mem_map.mp hfield
  exact (valueOf_pair name other _).trans (if_neg h)

variable [YamlText]

lemma textAt_str {fields : List (Yaml × Yaml)} {name : String} {value : Text}
    (h : getField fields (Text.of name) = some (.str value)) : textAt fields name = value := by
  unfold textAt
  rw [h]
  cases value with
  | nil => rfl
  | cons c rest => rfl

lemma volumeTarget_long : volumeTarget volume.long = volume.target := by
  show textAt volume.longFields "target" = _
  refine textAt_str ?_
  unfold ShortVolume.longFields ShortVolume.field getField
  simp [valueOf_pair]

lemma volumeSource_long : volumeSource volume.long = volume.source := by
  show textAt volume.longFields "source" = _
  refine textAt_str ?_
  unfold ShortVolume.longFields ShortVolume.field getField
  simp [valueOf_pair]

lemma volumeType_long :
    volumeType volume.long = Text.of (if volume.isNamed then "volume" else "bind") := by
  show textAt volume.longFields "type" = _
  refine textAt_str ?_
  unfold ShortVolume.longFields ShortVolume.field getField
  simp [valueOf_pair]

omit [YamlText] in
lemma volumeIsReadOnly_long :
    volumeIsReadOnly volume.long = true ↔ Text.of "ro" ∈ volume.options := by
  have hfield : getField volume.longFields (Text.of "read_only") =
      if Text.of "ro" ∈ volume.options then some (.other (Text.of "True") true) else none := by
    unfold ShortVolume.longFields getField
    rw [List.findSome?_append, findSome_field (by decide), Option.or_none]
    unfold ShortVolume.field
    split_ifs <;> simp [valueOf_pair]
  rw [ShortVolume.long, volumeIsReadOnly, hfield]
  split_ifs with h <;> simp [h, isTrueItself]

lemma volumePropagation_long : volumePropagation volume.long = volume.propagation.getD [] := by
  have hfield : getField volume.longFields (Text.of "bind") =
      if volume.bindFields = [] then none else some (.dict volume.bindFields) := by
    unfold ShortVolume.longFields getField
    rw [List.findSome?_append, findSome_field (by decide), Option.or_none]
    unfold ShortVolume.field
    split_ifs <;> simp [valueOf_pair]
  have hbind : textAt volume.bindFields "propagation" = volume.propagation.getD [] := by
    cases hmode : volume.propagation with
    | none =>
        unfold textAt ShortVolume.bindFields getField
        rw [hmode, Option.toList_none, List.map_nil, List.nil_append, findSome_field (by decide)]
        rfl
    | some mode =>
        refine textAt_str ?_
        unfold ShortVolume.bindFields ShortVolume.field getField
        rw [hmode]
        simp [valueOf_pair]
  rw [ShortVolume.long, volumePropagation, hfield]
  split_ifs with hnil
  · rw [← hbind, hnil]
    rfl
  · exact hbind

omit [YamlText] in
lemma fieldsContain_eq (fields : List (Yaml × Yaml)) : fieldsContain fields =
    fields.any fun field => containsSourceOutput field.1 || containsSourceOutput field.2 := by
  induction fields with
  | nil => rfl
  | cons field rest ih =>
      obtain ⟨key, value⟩ := field
      rw [fieldsContain, ih, List.any_cons]

omit [YamlText] in
/-- Fields with one of these values do not name the source output. -/
lemma any_field_eq_false {name : String} {values : List Text}
    (hname : ¬sourceOutput <:+: Text.of name) (h : ∀ value ∈ values, value ∈ volumeOptions) :
    ((values.map (ShortVolume.field name)).any fun field =>
      containsSourceOutput field.1 || containsSourceOutput field.2) = false := by
  have hoption : ∀ option ∈ volumeOptions, ¬sourceOutput <:+: option := by decide
  rw [List.any_map, List.any_eq_false]
  intro value hvalue
  have hfree := hoption value (h value hvalue)
  simp [ShortVolume.field, containsSourceOutput, hname, hfree]

omit [YamlText] in
lemma containsSourceOutput_bind : fieldsContain volume.bindFields = false := by
  have hmode : ∀ mode ∈ volume.propagation.toList, mode ∈ volumeOptions := by
    intro mode hmode
    rw [Option.mem_toList] at hmode
    exact volume.known mode (List.mem_of_find?_eq_some hmode)
  rw [fieldsContain_eq, ShortVolume.bindFields, List.any_append, Bool.or_eq_false_iff]
  exact ⟨any_field_eq_false (by decide) hmode,
    any_field_eq_false (by decide) fun value hvalue => volume.known _ (List.mem_filter.mp hvalue).1⟩

omit [YamlText] in
lemma containsSourceOutput_long : containsSourceOutput volume.long = true ↔
    sourceOutput <:+: volume.source ∨ sourceOutput <:+: volume.target := by
  have hliterals : ∀ name ∈ ["type", "source", "target", "volume", "bind", "read_only", "nocopy"],
      decide (sourceOutput <:+: Text.of name) = false := by decide
  simp only [List.forall_mem_cons, List.not_mem_nil, false_implies, implies_true,
    and_true] at hliterals
  obtain ⟨htype, hsource, htarget, hvolume, hbind, hreadOnly, hnocopy⟩ := hliterals
  have hconsistency : ((volume.options.filter
      (· ∈ ["cached", "delegated", "consistent"].map Text.of)).map
      (ShortVolume.field "consistency")).any (fun field =>
        containsSourceOutput field.1 || containsSourceOutput field.2) = false :=
    any_field_eq_false (by decide) fun value hvalue => volume.known _ (List.mem_filter.mp hvalue).1
  rw [ShortVolume.long, containsSourceOutput, fieldsContain_eq, ShortVolume.longFields,
    List.any_append, List.any_append, List.any_append, List.any_append, hconsistency]
  have hfirst : ([ShortVolume.field "type" (Text.of (if volume.isNamed then "volume" else "bind")),
      ShortVolume.field "source" volume.source, ShortVolume.field "target" volume.target].any
        fun field => containsSourceOutput field.1 || containsSourceOutput field.2) =
      (decide (sourceOutput <:+: volume.source) || decide (sourceOutput <:+: volume.target)) := by
    cases volume.isNamed <;>
      simp only [ShortVolume.field, List.any_cons, List.any_nil, containsSourceOutput, htype,
        hsource, htarget, hvolume, hbind, if_true, if_false, Bool.false_or, Bool.or_false,
        Bool.false_eq_true]
  rw [hfirst]
  split_ifs <;>
    simp [containsSourceOutput, fieldsContain, containsSourceOutput_bind, hreadOnly, hbind,
      hvolume, hnocopy]

end long

end AgentRuntimeOps.Compose
