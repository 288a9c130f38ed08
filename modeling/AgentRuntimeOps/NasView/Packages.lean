import AgentRuntimeOps.Lib.Checks
import AgentRuntimeOps.Lib.Words

/-!
# The package of a user

`find_user_package` of `domain/nas_views.py` finds the package of a user by the end of its name.  A
package is named `{name}_{title}_{user_id}`, and each of the three may hold the separator.

`user_package_iff` says when the package that is found is the one of the user.
-/

namespace AgentRuntimeOps.NasView.Packages

open Lib

/-! ## Ids -/

/-- `[A-Za-z0-9.@_-]` -/
def isIdChar (c : Nat) : Bool :=
  (65 ≤ c && c ≤ 90) || (97 ≤ c && c ≤ 122) || (48 ≤ c && c ≤ 57) || c == 46 || c == 64 ||
    c == 95 || c == 45

/-- What the commands raise here. -/
inductive Raised where
  /-- `unsafe user_id` -/
  | badUserId
  /-- `unsafe conversation_id` -/
  | badRoomId
  /-- `users/ not found under master mount` -/
  | noUsers
  /-- `no users/ package with suffix` -/
  | noPackage
  /-- `ambiguous user_id`, with the names -/
  | ambiguous (names : List Text)
  /-- The exception of reading `membership.json`, or of an entry. -/
  | unreadable
  /-- `membership.json has no conversation_ids` -/
  | noRooms
  deriving DecidableEq, Repr

/-- What `SAFE_USER_ID_RE` and `SAFE_ROOM_ID_RE` match, but for the two dots. -/
def safeId (limit : Nat) (value : Text) : Bool :=
  value ≠ [] && value.length ≤ limit && value.all isIdChar && value ≠ [46] && value ≠ [46, 46]

/-- `validate_user_id` -/
def validateUserId (userId : Text) : Except Raised Text := do
  let value := userId.strip
  require (safeId 64 value = true) .badUserId
  return value

/-- `validate_room_id` -/
def validateRoomId (roomId : Text) : Except Raised Text := do
  let value := roomId.strip
  require (safeId 80 value = true) .badRoomId
  return value

/-! ## Packages -/

/-- A package: `name`, `title` and the user id of its owner. -/
structure UserPackage where
  name : Text
  title : Text
  userId : Text
  valid : validateUserId userId = .ok userId
  deriving DecidableEq

/-- `{name}_{title}_{user_id}` -/
def UserPackage.dirName (package : UserPackage) : Text :=
  package.name ++ 95 :: package.title ++ 95 :: package.userId

/-- An entry of `users/` and what its two tests answer; `none` where `is_dir` raises. -/
structure Entry where
  name : Text
  isDir : Option Bool
  isSymlink : Bool
  deriving DecidableEq, Repr

/-- `users/`: its packages, and what else lies there. -/
structure Users where
  packages : List UserPackage
  others : List Entry
  /-- No two entries of a directory have one name. -/
  distinct : (packages.map UserPackage.dirName ++ others.map Entry.name).Nodup
  /-- What is a directory of its own is a package. -/
  packaged : ∀ entry ∈ others, entry.isDir ≠ some true ∨ entry.isSymlink = true

/-- What the system lists. -/
def Users.entries (users : Users) : List Entry :=
  users.packages.map (fun package => ⟨package.dirName, some true, false⟩) ++ users.others

/-- `_{user_id}` -/
def suffixOf (userId : Text) : Text := 95 :: userId

/-- The condition of the comprehension; `none` where it raises. -/
def matchesUser (userId : Text) (entry : Entry) : Option Bool :=
  entry.isDir.map fun isDir =>
    isDir && !entry.isSymlink && (suffixOf userId).isSuffixOf entry.name

/-- The names that match, in order. -/
def matchingNames (userId : Text) : List Entry → Except Raised (List Text)
  | [] => return []
  | entry :: rest => do
      let found ← orRaise (matchesUser userId entry) .unreadable
      let names ← matchingNames userId rest
      return if found then entry.name :: names else names

/-- `find_user_package`: `listed` is what `iterdir` gives, and `none` where `users/` is no
directory. -/
def findUserPackage (listed : Option (List Entry)) (userId : Text) : Except Raised Text := do
  let userId ← validateUserId userId
  let entries ← orRaise listed .noUsers
  let names ← matchingNames userId (entries.mergeSort fun a b => a.name ≤ b.name)
  match names with
  | [] => .error .noPackage
  | [name] => return name
  | _ => .error (.ambiguous names)

/-- `load_membership_rooms`: `ids` are the `conversation_ids` of the file, none of them where they
are no list, and `none` where reading it raises. -/
def loadMembershipRooms (ids : Option (List Text)) : Except Raised (List Text) := do
  let ids ← orRaise ids .unreadable
  require (ids ≠ []) .noRooms
  ids.mapM validateRoomId

/-- What a plan of the layout `kakao_package` binds: the package, and the rooms below `media/`. -/
structure PackagePlan where
  userId : Text
  packageDir : Text
  rooms : List Text
  missing : List Text
  deriving DecidableEq, Repr

/-- `build_view_plan`, where the layout is `kakao_package`: `membership` reads the file of a package
and `media` says whether a room has a directory of its own. -/
def buildViewPlan (listed : Option (List Entry)) (membership : Text → Option (List Text))
    (media : Text → Bool) (userId : Text) : Except Raised PackagePlan := do
  let userId ← validateUserId userId
  let packageDir ← findUserPackage listed userId
  let rooms ← loadMembershipRooms (membership packageDir)
  return { userId, packageDir, rooms := rooms.filter media, missing := rooms.filter (!media ·) }

/-! ## Names that end alike -/

variable {userId value : Text} {users : Users} {package : UserPackage}

/-- The name of the package of another user ends in `_` and the id: the id ends the other's id, or
the other's id ends the id and the rest of it ends the name and title. -/
def Shadows (userId : Text) (package : UserPackage) : Prop :=
  (∃ front, package.userId = front ++ 95 :: userId) ∨
    ∃ front, userId = front ++ 95 :: package.userId ∧
      suffixOf front <:+ package.name ++ 95 :: package.title

/-- What ends a text ends its last part, or all of it and a part of the first. -/
lemma suffix_append_iff {l s t : Text} :
    l <:+ s ++ t ↔ l <:+ t ∨ ∃ front, front ≠ [] ∧ front <:+ s ∧ l = front ++ t := by
  constructor
  · rintro ⟨before, h⟩
    rcases List.append_eq_append_iff.mp h with ⟨front, hs, hl⟩ | ⟨front, hb, ht⟩
    · by_cases hfront : front = []
      · subst hfront
        exact .inl ⟨[], by rw [hl]; rfl⟩
      · exact .inr ⟨front, hfront, ⟨before, hs.symm⟩, hl⟩
    · exact .inl ⟨front, ht.symm⟩
  · rintro (h | ⟨front, -, ⟨before, hs⟩, rfl⟩)
    · exact h.trans (List.suffix_append s t)
    · exact ⟨before, by rw [← List.append_assoc, hs]⟩

/-- A package matches an id when it is the user's own, or when it shadows one. -/
lemma suffix_dirName_iff :
    suffixOf userId <:+ package.dirName ↔ package.userId = userId ∨ Shadows userId package := by
  have hname : package.dirName =
      (package.name ++ 95 :: package.title) ++ suffixOf package.userId := by
    simp [UserPackage.dirName, suffixOf]
  rw [hname, suffix_append_iff]
  constructor
  · rintro (⟨before, h⟩ | ⟨front, hne, hfront, h⟩)
    · cases before with
      | nil => exact .inl (List.cons.inj h).2.symm
      | cons c before => exact .inr (.inl ⟨before, (List.cons.inj h).2.symm⟩)
    · obtain ⟨c, front, rfl⟩ := List.exists_cons_of_ne_nil hne
      obtain ⟨rfl, hid⟩ := List.cons.inj h
      exact .inr (.inr ⟨front, hid, hfront⟩)
  · rintro (rfl | ⟨front, h⟩ | ⟨front, h, hfront⟩)
    · exact .inl List.suffix_rfl
    · exact .inl ⟨95 :: front, by rw [suffixOf, suffixOf, h]; rfl⟩
    · refine .inr ⟨suffixOf front, List.cons_ne_nil _ _, hfront, ?_⟩
      rw [h]
      rfl

/-! ## What is found -/

lemma matchesUser_iff {entry : Entry} : matchesUser userId entry = some true ↔
    entry.isDir = some true ∧ entry.isSymlink = false ∧ suffixOf userId <:+ entry.name := by
  unfold matchesUser
  cases entry.isDir with
  | none => simp
  | some isDir =>
      rw [Option.map_some, Option.some.injEq, Bool.and_eq_true, Bool.and_eq_true, Bool.not_eq_true',
        List.isSuffixOf_iff_suffix, Option.some.injEq, and_assoc]

/-- The names are read from the entries that match, unless a test of one raises. -/
lemma matchingNames_ok {entries : List Entry} {names : List Text} :
    matchingNames userId entries = .ok names ↔ (∀ entry ∈ entries, entry.isDir.isSome = true) ∧
      names = (entries.filter fun entry => matchesUser userId entry = some true).map
        Entry.name := by
  induction entries generalizing names with
  | nil =>
      rw [matchingNames, except_pure_ok]
      exact ⟨fun h => ⟨fun _ h => absurd h List.not_mem_nil, h.symm⟩, fun h => h.2.symm⟩
  | cons entry entries ih =>
      have hsome : (matchesUser userId entry).isSome = entry.isDir.isSome := by
        rw [matchesUser, Option.isSome_map]
      rw [matchingNames, except_bind_ok, List.forall_mem_cons]
      simp only [orRaise_ok, except_bind_ok, except_pure_ok, ih]
      constructor
      · rintro ⟨found, hfound, rest, ⟨hall, rfl⟩, rfl⟩
        refine ⟨⟨by rw [← hsome, hfound]; rfl, hall⟩, ?_⟩
        rw [List.filter_cons]
        cases found with
        | false => simp [hfound]
        | true => simp [hfound]
      · rintro ⟨⟨hdir, hall⟩, rfl⟩
        rw [← hsome] at hdir
        obtain ⟨found, hfound⟩ := Option.isSome_iff_exists.mp hdir
        refine ⟨found, hfound, _, ⟨hall, rfl⟩, ?_⟩
        rw [List.filter_cons]
        cases found with
        | false => simp [hfound]
        | true => simp [hfound]

/-- The entries that match are the packages whose names end so. -/
lemma filter_entries : users.entries.filter (fun entry => matchesUser userId entry = some true) =
    (users.packages.filter fun package => (suffixOf userId).isSuffixOf package.dirName).map
      fun package => ⟨package.dirName, some true, false⟩ := by
  unfold Users.entries
  rw [List.filter_append, List.filter_map]
  have hothers : users.others.filter (fun entry => matchesUser userId entry = some true) = [] := by
    rw [List.filter_eq_nil_iff]
    intro entry hentry hmatch
    obtain ⟨hdir, hlink, -⟩ := matchesUser_iff.mp (of_decide_eq_true hmatch)
    rcases users.packaged entry hentry with hnot | hnot
    · exact hnot hdir
    · exact Bool.false_ne_true (hlink.symm.trans hnot)
  rw [hothers, List.append_nil]
  refine congrArg _ (List.filter_congr fun package _ => ?_)
  rw [Function.comp_apply, Bool.eq_iff_iff, decide_eq_true_eq, matchesUser_iff,
    List.isSuffixOf_iff_suffix]
  simp

/-- What is found is the one package whose name ends so. -/
lemma findUserPackage_ok {listed : List Entry} {name : Text} (hlisted : listed.Perm users.entries) :
    findUserPackage (some listed) userId = .ok name ↔
      ∃ value, validateUserId userId = .ok value ∧
        (∀ entry ∈ users.others, entry.isDir.isSome = true) ∧
        ∃ package, name = package.dirName ∧ (users.packages.filter fun package =>
          (suffixOf value).isSuffixOf package.dirName) = [package] := by
  have hsorted : (listed.mergeSort fun a b => a.name ≤ b.name).Perm users.entries :=
    (List.mergeSort_perm _ _).trans hlisted
  have hanswers : (∀ entry ∈ listed.mergeSort fun a b => a.name ≤ b.name,
      entry.isDir.isSome = true) ↔ ∀ entry ∈ users.others, entry.isDir.isSome = true := by
    rw [forall_congr' fun entry => imp_congr_left hsorted.mem_iff, Users.entries,
      List.forall_mem_append]
    simp
  unfold findUserPackage
  rw [except_bind_ok]
  refine exists_congr fun value => and_congr_right fun _ => ?_
  rw [except_bind_ok]
  simp only [orRaise_ok, Option.some.injEq, exists_eq_left', except_bind_ok, matchingNames_ok,
    hanswers]
  have hfilter := (hsorted.filter fun entry => matchesUser value entry = some true)
  rw [filter_entries] at hfilter
  constructor
  · rintro ⟨names, ⟨hall, hnames⟩, hfound⟩
    refine ⟨hall, ?_⟩
    split at hfound
    · cases hfound
    · cases hfound
      have hperm := (hfilter.map Entry.name)
      rw [← hnames, List.map_map, List.singleton_perm] at hperm
      obtain ⟨package, hpackage, hname⟩ := List.map_eq_singleton_iff.mp hperm.symm
      exact ⟨package, hname.symm, hpackage⟩
    · cases hfound
  · rintro ⟨hall, package, rfl, hpackage⟩
    rw [hpackage, List.map_singleton, List.perm_singleton] at hfilter
    exact ⟨[package.dirName], ⟨hall, by rw [hfilter]; rfl⟩, rfl⟩

/-- The one package of some that differ. -/
lemma filter_eq_singleton_iff {p : UserPackage → Bool} :
    users.packages.filter p = [package] ↔
      package ∈ users.packages ∧ p package = true ∧
        ∀ other ∈ users.packages, p other = true → other = package := by
  have hnodup : users.packages.Nodup :=
    (List.nodup_append.mp users.distinct).1.of_map UserPackage.dirName
  rw [← List.perm_singleton,
    List.perm_ext_iff_of_nodup (hnodup.filter p) (List.nodup_singleton package)]
  simp only [List.mem_filter, List.mem_singleton]
  constructor
  · intro h
    obtain ⟨hmem, hp⟩ := (h package).mpr rfl
    exact ⟨hmem, hp, fun other hother hpo => (h other).mp ⟨hother, hpo⟩⟩
  · rintro ⟨hmem, hp, honly⟩ other
    refine ⟨fun h => honly other h.1 h.2, ?_⟩
    rintro rfl
    exact ⟨hmem, hp⟩

/-! ## Whose package it is -/

/-- The package of the name is the user's own. -/
def OwnPackage (users : Users) (userId name : Text) : Prop :=
  ∃ package ∈ users.packages, package.dirName = name ∧ validateUserId userId = .ok package.userId

/-- Whatever is found is the user's own package, and so is what a plan binds. -/
def NeverAnothers (users : Users) (userId : Text) : Prop :=
  ∀ listed : Option (List Entry), (∀ entries ∈ listed, entries.Perm users.entries) →
    (∀ name, findUserPackage listed userId = .ok name → OwnPackage users userId name) ∧
    ∀ membership media plan, buildViewPlan listed membership media userId = .ok plan →
      OwnPackage users userId plan.packageDir

/-- The user has no package, and exactly one package of another user shadows it. -/
def Mistaken (users : Users) (userId : Text) : Prop :=
  (∀ entry ∈ users.others, entry.isDir.isSome = true) ∧
  ∃ value, validateUserId userId = .ok value ∧
    (∀ package ∈ users.packages, package.userId ≠ value) ∧
    ∃ package ∈ users.packages, Shadows value package ∧
      ∀ other ∈ users.packages, Shadows value other → other = package

lemma isSpace_of_isIdChar {c : Nat} (h : isIdChar c = true) : Text.isSpace c = false := by
  simp only [isIdChar, Bool.or_eq_true, Bool.and_eq_true, decide_eq_true_eq, beq_iff_eq] at h
  simp only [Text.isSpace, Bool.or_eq_false_iff, Bool.and_eq_false_iff, decide_eq_false_iff_not,
    beq_eq_false_iff_ne]
  omega

/-- A validated id is validated again. -/
lemma validateUserId_validated (h : validateUserId userId = .ok value) :
    validateUserId value = .ok value := by
  dsimp only [validateUserId] at h ⊢
  obtain ⟨_, hsafe, hvalue⟩ := except_bind_ok.mp h
  obtain rfl := except_pure_ok.mp hvalue
  rw [require_ok] at hsafe
  have hplain : ∀ c ∈ userId.strip, Text.isSpace c = false := by
    have hall : userId.strip.all isIdChar = true := by
      simp only [safeId, Bool.and_eq_true] at hsafe
      exact hsafe.1.1.2
    exact fun c hc => isSpace_of_isIdChar (List.all_eq_true.mp hall c hc)
  rw [Text.strip_of_forall hplain]
  exact except_bind_ok.mpr ⟨(), require_of hsafe, rfl⟩

/-- A lookup finds the package of another user exactly for a user who has none, where the name of
one other package ends in the id. -/
theorem user_package_iff (users : Users) (userId : Text) :
    NeverAnothers users userId ↔ ¬Mistaken users userId := by
  constructor
  · rintro h ⟨hothers, value, hvalue, hnone, package, hmem, hshadow, honly⟩
    have hfound : findUserPackage (some users.entries) userId = .ok package.dirName := by
      refine (findUserPackage_ok (List.Perm.refl _)).mpr
        ⟨value, hvalue, hothers, package, rfl, filter_eq_singleton_iff.mpr ⟨hmem, ?_, ?_⟩⟩
      · exact List.isSuffixOf_iff_suffix.mpr (suffix_dirName_iff.mpr (.inr hshadow))
      · intro other hother hends
        rcases suffix_dirName_iff.mp (List.isSuffixOf_iff_suffix.mp hends) with hown | hother'
        · exact absurd hown (hnone other hother)
        · exact honly other hother hother'
    obtain ⟨own, hown, -, hid⟩ := (h (some users.entries) (by rintro _ ⟨⟩; rfl)).1 _ hfound
    exact hnone own hown (Except.ok.inj (hvalue.symm.trans hid)).symm
  · intro hnot listed hlisted
    have hfind : ∀ name u, validateUserId u = validateUserId userId →
        findUserPackage listed u = .ok name → OwnPackage users userId name := by
      intro name u hu hfound
      cases listed with
      | none =>
          obtain ⟨_, -, hfound⟩ := except_bind_ok.mp hfound
          cases hfound
      | some entries =>
          obtain ⟨value, hvalue, hothers, package, rfl, hfilter⟩ :=
            (findUserPackage_ok (hlisted entries rfl)).mp hfound
          obtain ⟨hmem, hends, honly⟩ := filter_eq_singleton_iff.mp hfilter
          have hends' : ∀ other ∈ users.packages,
              other.userId = value ∨ Shadows value other → other = package :=
            fun other hother h => honly other hother
              (List.isSuffixOf_iff_suffix.mpr (suffix_dirName_iff.mpr h))
          rw [hu] at hvalue
          rcases suffix_dirName_iff.mp (List.isSuffixOf_iff_suffix.mp hends) with hid | hshadow
          · exact ⟨package, hmem, rfl, by rw [hid, hvalue]⟩
          · by_contra hother
            refine hnot ⟨hothers, value, hvalue, fun own hown hid => hother ?_, package, hmem,
              hshadow, fun other hmem' h => hends' other hmem' (.inr h)⟩
            obtain rfl := hends' own hown (.inl hid)
            exact ⟨own, hown, rfl, by rw [hid, hvalue]⟩
    refine ⟨fun name => hfind name userId rfl, fun membership media plan hplan => ?_⟩
    obtain ⟨value, hvalue, hplan⟩ := except_bind_ok.mp hplan
    obtain ⟨name, hname, hplan⟩ := except_bind_ok.mp hplan
    obtain ⟨rooms, -, hplan⟩ := except_bind_ok.mp hplan
    obtain rfl := except_pure_ok.mp hplan
    exact hfind name value ((validateUserId_validated hvalue).trans hvalue.symm) hname

/-- The package of `x_kim`. -/
def sampleUsers : Users where
  packages := [⟨Text.of "Kim", Text.of "CEO", Text.of "x_kim", by decide⟩]
  others := []
  distinct := by decide
  packaged := nofun

/-- `kim`, who has no package, is shown the one of `x_kim`. -/
theorem user_package_mistaken : ¬NeverAnothers sampleUsers (Text.of "kim") := by
  intro h
  obtain ⟨package, hmem, -, hid⟩ := (h (some sampleUsers.entries) (by rintro _ ⟨⟩; rfl)).1
    (Text.of "Kim_CEO_x_kim") ((findUserPackage_ok (List.Perm.refl _)).mpr
      ⟨Text.of "kim", by decide, nofun, sampleUsers.packages.head (by decide), by decide, rfl⟩)
  obtain rfl := List.mem_singleton.mp hmem
  exact absurd hid (by decide)

end AgentRuntimeOps.NasView.Packages
