import AgentRuntimeOps.RootActions.Reobservation

/-!
# Every declared slot is observed

The accounts of the binding grammar are safe identifiers, and so are the ids that are made of them;
the manifest of a slot is therefore accepted whatever slot and time it is for.  One condition is left:
the job carries a timestamp of a year `20..` in UTC.
-/

namespace AgentRuntimeOps.RootActions

open AgentRuntimeOps.Lib

/-! ## Accounts -/

/-- The account is a name of the binding grammar, and nothing is stripped from it. -/
def IsAccount (slot : String) : Prop := Routing.isLinuxAccount slot.toList = true

lemma isAccount_chars {text : List Char} (h : Routing.isLinuxAccount text = true) :
    text ≠ [] ∧ text.length ≤ 32 ∧
      ∀ c ∈ text, c.isLower || c.isDigit || c == '_' || c == '-' := by
  unfold Routing.isLinuxAccount at h
  cases text with
  | nil => cases h
  | cons c rest =>
      simp only [Bool.and_eq_true, decide_eq_true_eq, List.all_eq_true] at h
      obtain ⟨⟨hfirst, hlen⟩, hrest⟩ := h
      refine ⟨List.cons_ne_nil c rest, by rw [List.length_cons]; omega, fun d hd => ?_⟩
      rcases List.mem_cons.mp hd with rfl | hd
      · rw [hfirst]
        rfl
      · exact hrest d hd

/-- A character of an account is no white space and no dot. -/
lemma account_char {c : Char} (h : (c.isLower || c.isDigit || c == '_' || c == '-') = true) :
    isIdChar c = true ∧ Routing.isSpace c = false ∧ c ≠ '.' := by
  have hid : isIdChar c = true := by
    unfold isIdChar isLowerAlnum
    simp only [Bool.or_eq_true] at h ⊢
    tauto
  have hprintable := of_decide_eq_true (isPrintableAscii_of_isIdChar hid)
  have hrange : c.toNat ≠ 0x20 ∧ c ≠ '.' := by
    simp only [Bool.or_eq_true, beq_iff_eq, Char.isLower, Char.isDigit, Bool.and_eq_true,
      decide_eq_true_eq, ge_iff_le, UInt32.le_iff_toNat_le] at h
    rcases h with ((⟨hlow, hhigh⟩ | ⟨hlow, hhigh⟩) | rfl) | rfl
    · have h₁ : 97 ≤ c.toNat := hlow
      refine ⟨by omega, ?_⟩
      rintro rfl
      exact absurd h₁ (by decide)
    · have h₁ : 48 ≤ c.toNat := hlow
      refine ⟨by omega, ?_⟩
      rintro rfl
      exact absurd h₁ (by decide)
    · decide
    · decide
  refine ⟨hid, ?_, hrange.2⟩
  unfold Routing.isSpace
  simp only [Bool.or_eq_false_iff, Bool.and_eq_false_iff, decide_eq_false_iff_not, beq_eq_false_iff_ne]
  omega

lemma dropWhile_eq_self {p : Char → Bool} {text : List Char} (h : ∀ c ∈ text, p c = false) :
    text.dropWhile p = text := by
  cases text with
  | nil => rfl
  | cons c rest =>
      rw [List.dropWhile_cons, h c List.mem_cons_self]
      rfl

lemma strip_eq_self {text : List Char} (h : ∀ c ∈ text, Routing.isSpace c = false) :
    Routing.strip text = text := by
  unfold Routing.strip Routing.dropRight
  rw [dropWhile_eq_self h, dropWhile_eq_self fun c hc => h c (List.mem_reverse.mp hc),
    List.reverse_reverse]

/-- An account is validated as it is. -/
lemma validateLinuxAccount_of_isAccount {slot : String} (h : IsAccount slot) :
    Routing.validateLinuxAccount slot = some slot := by
  have hstrip : Routing.strip slot.toList = slot.toList :=
    strip_eq_self fun c hc => (account_char ((isAccount_chars h).2.2 c hc)).2.1
  unfold Routing.validateLinuxAccount
  dsimp only
  rw [hstrip, String.ofList_toList]
  exact if_pos h

lemma isAccount_of_validateLinuxAccount {value slot : String}
    (h : Routing.validateLinuxAccount value = some slot) : IsAccount slot := by
  unfold Routing.validateLinuxAccount at h
  dsimp only at h
  split_ifs at h with haccount
  cases h
  unfold IsAccount
  rwa [String.toList_ofList]

/-! ## The declared slots -/

section slots

variable [Yaml.PythonRepr]

/-- What one record adds to the slots. -/
lemma declareSlot_ok {bindings : List Routing.RuntimeBinding} {slots slots' : List String}
    {item : String × String × Yaml} (h : declareSlot bindings slots item = .ok slots') :
    slots' = slots ∨ ∃ slot, IsAccount slot ∧ slot ∉ slots ∧ slots' = slots ++ [slot] := by
  unfold declareSlot at h
  split_ifs at h with hcorpus
  · exact .inl (except_pure_ok.mp h).symm
  · right
    simp only [except_bind_ok, require_ok, orRaise_ok, except_pure_ok, exists_and_left,
      exists_const] at h
    obtain ⟨slot, hslot, -, _, -, -, hnew, rfl⟩ := h
    exact ⟨slot, isAccount_of_validateLinuxAccount hslot, hnew, rfl⟩

omit [Yaml.PythonRepr] in
/-- What every turn of a loop preserves holds at its end. -/
lemma foldlM_invariant {α β : Type} {step : β → α → Except ReobservationRaised β} {P : β → Prop}
    (hstep : ∀ acc a acc', P acc → step acc a = .ok acc' → P acc') {items : List α} {acc out : β}
    (hacc : P acc) (h : items.foldlM step acc = .ok out) : P out := by
  induction items generalizing acc with
  | nil =>
      rw [List.foldlM_nil] at h
      rwa [← except_pure_ok.mp h]
  | cons a items ih =>
      rw [List.foldlM_cons] at h
      obtain ⟨next, hnext, h⟩ := except_bind_ok.mp h
      exact ih (hstep acc a next hacc hnext) h

/-- The declared slots are different accounts. -/
theorem declaredGroupwareSlots_ok {root : StateRoot} {slots : List String}
    (h : declaredGroupwareSlots root = .ok slots) : slots.Nodup ∧ ∀ slot ∈ slots, IsAccount slot := by
  unfold declaredGroupwareSlots at h
  simp only [except_bind_ok, require_ok, orRaise_ok, except_pure_ok, exists_and_left,
    exists_const] at h
  obtain ⟨bindings, -, records, -, declared, hdeclared, -, rfl⟩ := h
  have hslots : declared.Nodup ∧ ∀ slot ∈ declared, IsAccount slot := by
    refine foldlM_invariant (P := fun slots : List String =>
      slots.Nodup ∧ ∀ slot ∈ slots, IsAccount slot) ?_ ⟨List.nodup_nil, List.forall_mem_nil _⟩ hdeclared
    intro slots item slots' hslots hstep
    obtain rfl | ⟨slot, haccount, hnew, rfl⟩ := declareSlot_ok hstep
    · exact hslots
    · refine ⟨List.nodup_append.mpr ⟨hslots.1, List.nodup_singleton slot, ?_⟩, fun other hother => ?_⟩
      · intro a ha b hb
        rw [List.mem_singleton.mp hb]
        rintro rfl
        exact hnew ha
      · rcases List.mem_append.mp hother with hother | hother
        · exact hslots.2 other hother
        · rw [List.mem_singleton.mp hother]
          exact haccount
  have hperm := List.mergeSort_perm declared fun a b => decide (a ≤ b)
  exact ⟨hperm.nodup_iff.mpr hslots.1, fun slot hslot => hslots.2 slot (hperm.mem_iff.mp hslot)⟩

end slots

/-! ## The bucket of a time -/

/-- The start of the quarter is the last multiple of 900 seconds. -/
lemma aligned_ofSeconds (n : Nat) :
    aligned (DateTime.ofSeconds n) = DateTime.ofSeconds (n / 900 * 900) := by
  obtain ⟨m, hm⟩ : ∃ m, m = n / 900 * 900 := ⟨_, rfl⟩
  have hday : m / 86400 = n / 86400 := by omega
  have hhour : m % 86400 / 3600 = n % 86400 / 3600 := by omega
  have hminute : m % 86400 / 60 % 60 = n % 86400 / 60 % 60 / 15 * 15 := by omega
  have hsecond : m % 86400 % 60 = 0 := by omega
  rw [← hm]
  unfold aligned DateTime.ofSeconds
  dsimp only
  rw [hday, hhour, hminute, hsecond]

lemma aligned_aligned (n : Nat) : aligned (aligned (DateTime.ofSeconds n)) =
    aligned (DateTime.ofSeconds n) := by
  have hmultiple : n / 900 * 900 / 900 * 900 = n / 900 * 900 := by omega
  rw [aligned_ofSeconds, aligned_ofSeconds, hmultiple]

/-- The time is one of a year from 2000 to 2099 in UTC. -/
def InCentury (t : AwareTime) : Prop :=
  0 ≤ t.micros ∧ 2000 ≤ (DateTime.ofSeconds t.seconds).year ∧
    (DateTime.ofSeconds t.seconds).year ≤ 2099

/-- The bucket of a time of the century. -/
lemma observationBucket_of_inCentury {t : AwareTime} (h : InCentury t) :
    observationBucket t = .ok (aligned (DateTime.ofSeconds t.seconds)) := by
  obtain ⟨hpos, -, hyear⟩ := h
  have hend : t.seconds < DateTime.toSeconds ⟨10000, 1, 1, 0, 0, 0⟩ := by
    obtain ⟨hreal, hseconds⟩ := DateTime.ofSeconds_spec t.seconds
    have hlimit : DateTime.isReal ⟨10000, 1, 1, 0, 0, 0⟩ = true := by decide
    by_contra hle
    rcases (not_lt.mp hle).eq_or_lt with heq | hlt
    · rw [← hseconds] at heq
      rw [← DateTime.toSeconds_inj hlimit hreal heq] at hyear
      exact absurd hyear (by decide)
    · rw [← hseconds] at hlt
      have hlex := DateTime.lex_of_toSeconds_lt hlimit hreal hlt
      dsimp only at hlex
      omega
  unfold observationBucket utc
  rw [if_pos ⟨hpos, hend⟩]
  rfl

/-- What a bucket of the century is. -/
structure IsBucket (bucket : DateTime) : Prop where
  real : bucket.isReal = true
  aligned : aligned bucket = bucket
  year : 2000 ≤ bucket.year ∧ bucket.year ≤ 2099

lemma isBucket_of_inCentury {t : AwareTime} (h : InCentury t) :
    IsBucket (aligned (DateTime.ofSeconds t.seconds)) where
  real := by
    rw [aligned_ofSeconds]
    exact (DateTime.ofSeconds_spec _).1
  aligned := aligned_aligned t.seconds
  year := h.2

/-- Times of one quarter have one bucket. -/
lemma bucket_congr {t t' : AwareTime} (ht : 0 ≤ t.micros) (ht' : 0 ≤ t'.micros)
    (h : t.quarter = t'.quarter) :
    aligned (DateTime.ofSeconds t.seconds) = aligned (DateTime.ofSeconds t'.seconds) := by
  have hquarter : t.seconds / 900 = t'.seconds / 900 := by
    unfold AwareTime.quarter at h
    unfold AwareTime.seconds
    omega
  rw [aligned_ofSeconds, aligned_ofSeconds, hquarter]

/-! ## The timestamp and the token -/

lemma isDigit_digitChar {n : Nat} (h : n < 10) : (Nat.digitChar n).isDigit = true := by
  interval_cases n <;> decide

/-- The fields of a real time match the patterns of a timestamp. -/
lemma timestamp_fields :
    (∀ m, 1 ≤ m → m ≤ 12 →
      ((Nat.digitChar (m / 10 % 10) == '0' && '1' ≤ Nat.digitChar (m % 10) &&
          Nat.digitChar (m % 10) ≤ '9') ||
        (Nat.digitChar (m / 10 % 10) == '1' && '0' ≤ Nat.digitChar (m % 10) &&
          Nat.digitChar (m % 10) ≤ '2')) = true) ∧
    (∀ d, 1 ≤ d → d ≤ 31 →
      ((Nat.digitChar (d / 10 % 10) == '0' && '1' ≤ Nat.digitChar (d % 10) &&
          Nat.digitChar (d % 10) ≤ '9') ||
        ((Nat.digitChar (d / 10 % 10) == '1' || Nat.digitChar (d / 10 % 10) == '2') &&
          (Nat.digitChar (d % 10)).isDigit) ||
        (Nat.digitChar (d / 10 % 10) == '3' &&
          (Nat.digitChar (d % 10) == '0' || Nat.digitChar (d % 10) == '1'))) = true) ∧
    (∀ h, h < 24 →
      (((Nat.digitChar (h / 10 % 10) == '0' || Nat.digitChar (h / 10 % 10) == '1') &&
          (Nat.digitChar (h % 10)).isDigit) ||
        (Nat.digitChar (h / 10 % 10) == '2' && '0' ≤ Nat.digitChar (h % 10) &&
          Nat.digitChar (h % 10) ≤ '3')) = true) ∧
    ∀ i, i < 60 →
      ('0' ≤ Nat.digitChar (i / 10 % 10) && Nat.digitChar (i / 10 % 10) ≤ '5' &&
        (Nat.digitChar (i % 10)).isDigit) = true := by
  refine ⟨fun m h₁ h₂ => ?_, fun d h₁ h₂ => ?_, fun h hlt => ?_, fun i hlt => ?_⟩
  · interval_cases m <;> decide
  · interval_cases d <;> decide
  · interval_cases h <;> decide
  · interval_cases i <;> decide

/-- A bucket of the century is written as a timestamp. -/
lemma isRealTimestamp_strftime {bucket : DateTime} (h : IsBucket bucket) :
    isRealTimestamp bucket.strftime = true := by
  obtain ⟨hreal, -, hlow, hhigh⟩ := h
  obtain ⟨-, hmonth, hmonth', hday, hday', hhour, hminute, hsecond⟩ := of_decide_eq_true hreal
  have hmonthDays : DateTime.daysInMonth bucket.year bucket.month ≤ 31 := by
    unfold DateTime.daysInMonth
    split_ifs <;> omega
  obtain ⟨hmonths, hdays, hhours, hsixty⟩ := timestamp_fields
  have hcentury : bucket.year / 100 = 20 := by omega
  unfold isRealTimestamp
  rw [DateTime.strptime_strftime hreal (by omega)]
  rw [Option.isSome_some, Bool.and_true]
  unfold isTimestamp DateTime.strftime
  rw [String.toList_ofList, hcentury]
  simp only [DateTime.twoDigits, List.cons_append, List.nil_append, Bool.and_eq_true]
  refine ⟨⟨⟨⟨⟨⟨⟨⟨⟨⟨⟨⟨⟨⟨by decide, by decide⟩, ?_⟩, ?_⟩, rfl⟩, ?_⟩, rfl⟩, ?_⟩, rfl⟩, ?_⟩, rfl⟩, ?_⟩,
    rfl⟩, ?_⟩, rfl⟩
  · exact isDigit_digitChar (Nat.mod_lt _ (by decide))
  · exact isDigit_digitChar (Nat.mod_lt _ (by decide))
  · exact hmonths _ hmonth hmonth'
  · exact hdays _ hday (hday'.trans hmonthDays)
  · exact hhours _ hhour
  · have := hsixty _ hminute
    simpa only [Bool.and_eq_true] using this
  · have := hsixty _ hsecond
    simpa only [Bool.and_eq_true] using this

/-! ## The identifiers -/

/-- The characters of two digits are those of an identifier, and no dot. -/
lemma twoDigits_chars (n : Nat) :
    ∀ c ∈ DateTime.twoDigits n, isIdChar c = true ∧ c ≠ '.' := by
  intro c hc
  have hdigit : c.isDigit = true := by
    simp only [DateTime.twoDigits, List.mem_cons, List.not_mem_nil, or_false] at hc
    rcases hc with rfl | rfl
    · exact isDigit_digitChar (Nat.mod_lt _ (by decide))
    · exact isDigit_digitChar (Nat.mod_lt _ (by decide))
  refine ⟨?_, ?_⟩
  · unfold isIdChar isLowerAlnum
    rw [hdigit]
    simp
  · rintro rfl
    exact absurd hdigit (by decide)

lemma bucketToken_chars (bucket : DateTime) :
    (bucketToken bucket).toList.length = 14 ∧
      ∀ c ∈ (bucketToken bucket).toList, isIdChar c = true ∧ c ≠ '.' := by
  unfold bucketToken
  rw [String.toList_ofList]
  refine ⟨rfl, fun c hc => ?_⟩
  simp only [List.mem_append, List.mem_cons, List.not_mem_nil, or_false] at hc
  rcases hc with (((((hc | hc) | hc) | hc) | rfl | hc) | hc) | rfl
  · exact twoDigits_chars _ c hc
  · exact twoDigits_chars _ c hc
  · exact twoDigits_chars _ c hc
  · exact twoDigits_chars _ c hc
  · decide
  · exact twoDigits_chars _ c hc
  · exact twoDigits_chars _ c hc
  · decide

/-- A text of identifier characters that starts with the name of the observer is safe. -/
lemma isSafeId_prefixed {text : List Char} (h : ∀ c ∈ text, isIdChar c = true)
    (hlen : text.length ≤ 108) :
    isSafeId (String.ofList ("groupware-reobserve.".toList ++ text)) = true := by
  unfold isSafeId
  rw [String.toList_ofList]
  show (isLowerAlnum 'g' && ("roupware-reobserve.".toList ++ text).all isIdChar &&
    decide (("roupware-reobserve.".toList ++ text).length ≤ 127)) = true
  rw [List.all_append, List.length_append, List.all_eq_true.mpr h]
  simp only [Bool.and_true, Bool.and_eq_true, decide_eq_true_eq]
  refine ⟨by decide, ?_⟩
  have hname : "roupware-reobserve.".toList.length = 19 := by decide
  omega

lemma toList_reobservationJobId (slot : String) (bucket : DateTime) :
    (reobservationJobId slot bucket).toList =
      "groupware-reobserve.".toList ++ (slot.toList ++ '.' :: (bucketToken bucket).toList) := by
  unfold reobservationJobId
  simp [String.toList_append]

/-- The ids that are made of an account are safe. -/
lemma isSafeId_jobId {slot : String} (h : IsAccount slot) (bucket : DateTime) :
    isSafeId (reobservationJobId slot bucket) = true := by
  obtain ⟨-, hlen, hchars⟩ := isAccount_chars h
  obtain ⟨htoken, htokenChars⟩ := bucketToken_chars bucket
  rw [← String.ofList_toList (s := reobservationJobId slot bucket), toList_reobservationJobId]
  refine isSafeId_prefixed (fun c hc => ?_) ?_
  · rcases List.mem_append.mp hc with hc | hc
    · exact (account_char (hchars c hc)).1
    · rcases List.mem_cons.mp hc with rfl | hc
      · decide
      · exact (htokenChars c hc).1
  · rw [List.length_append, List.length_cons, htoken]
    omega

lemma isSafeId_lineageId {slot : String} (h : IsAccount slot) :
    isSafeId ("groupware-reobserve." ++ slot) = true := by
  obtain ⟨-, hlen, hchars⟩ := isAccount_chars h
  rw [← String.ofList_toList (s := "groupware-reobserve." ++ slot), String.toList_append]
  exact isSafeId_prefixed (fun c hc => (account_char (hchars c hc)).1) (by omega)

/-- An account is an identifier. -/
lemma isSafeId_of_isAccount {slot : String} (h : IsAccount slot) : isSafeId slot = true := by
  obtain ⟨-, -, hchars⟩ := isAccount_chars h
  unfold IsAccount Routing.isLinuxAccount at h
  unfold isSafeId
  cases hlist : slot.toList with
  | nil =>
      rw [hlist] at h
      cases h
  | cons c rest =>
      rw [hlist] at h hchars
      simp only [Bool.and_eq_true, decide_eq_true_eq] at h ⊢
      refine ⟨⟨?_, ?_⟩, by omega⟩
      · unfold isLowerAlnum
        rw [h.1.1]
        rfl
      · rw [List.all_eq_true]
        exact fun d hd => (account_char (hchars d (List.mem_cons_of_mem c hd))).1

/-! ## The manifest is accepted -/

section accepted

variable [UnicodeData]

lemma validateReview_reobservation {slot : String} (h : IsAccount slot) :
    validateReview (reobservationReview slot) = .ok () := by
  obtain ⟨-, hlen, hchars⟩ := isAccount_chars h
  have hprintable : ("groupware runtime slot " ++ slot).toList.all isPrintableAscii = true := by
    rw [String.toList_append, List.all_append, Bool.and_eq_true, List.all_eq_true (l := slot.toList)]
    exact ⟨by decide, fun c hc => isPrintableAscii_of_isIdChar (account_char (hchars c hc)).1⟩
  have hshort : ("groupware runtime slot " ++ slot).toList.length ≤ 512 := by
    rw [String.toList_append, List.length_append]
    have hname : "groupware runtime slot ".toList.length = 23 := by decide
    omega
  have hne : "groupware runtime slot " ++ slot ≠ "" := by
    intro heq
    have hlist := congrArg (fun s => s.toList.length) heq
    simp only [String.toList_append, List.length_append] at hlist
    have hname : "groupware runtime slot ".toList.length = 23 := by decide
    have hempty : "".toList.length = 0 := by decide
    omega
  have htext : ∀ field, safeText (.str ("groupware runtime slot " ++ slot)) field =
      .ok ("groupware runtime slot " ++ slot) := fun field => safeTextWith_ok hne hprintable hshort
  have htargets : textList ((reobservationReview slot).field "targets") "review.targets" =
      .ok () := by
    rw [show (reobservationReview slot).field "targets" =
      .arr [.str ("groupware runtime slot " ++ slot)] from rfl]
    unfold textList textListWith
    simp only [except_bind_ok, require_ok, requireEach_ok, exists_const]
    refine ⟨⟨le_refl 1, by simp⟩, fun item hitem => ?_, List.nodup_singleton _⟩
    obtain rfl := List.mem_singleton.mp hitem
    rw [htext]
    rfl
  unfold validateReview
  rw [htargets]
  rfl

/-- The manifest of a slot and a bucket is valid. -/
lemma validateManifest_reobservation {slot : String} (h : IsAccount slot) {bucket : DateTime}
    (hbucket : IsBucket bucket) :
    validateManifest (reobservationManifest slot bucket bucket.strftime) =
      .ok ⟨reobservationJobId slot bucket, "nas.observe_groupware_runtime", 1,
        reobservationJobId slot bucket, "groupware-reobserve." ++ slot, "ops-groupware-reobserver",
        bucket.strftime⟩ := by
  have hid : ∀ field, safeId (.str (reobservationJobId slot bucket)) field =
      .ok (reobservationJobId slot bucket) :=
    fun field => safeIdWith_ok.mpr ⟨isSafeId_jobId h bucket, rfl⟩
  have hlineage : ∀ field, safeId (.str ("groupware-reobserve." ++ slot)) field =
      .ok ("groupware-reobserve." ++ slot) :=
    fun field => safeIdWith_ok.mpr ⟨isSafeId_lineageId h, rfl⟩
  have hoperation : ∀ field, safeId (.str "nas.observe_groupware_runtime") field =
      .ok "nas.observe_groupware_runtime" := fun field => safeIdWith_ok.mpr ⟨by decide, rfl⟩
  have hreply : ∀ field, safeId (.str "ops-groupware-reobserver") field =
      .ok "ops-groupware-reobserver" := fun field => safeIdWith_ok.mpr ⟨by decide, rfl⟩
  have hsubmitted : ∀ field, safeTimestamp (.str bucket.strftime) field = .ok bucket.strftime :=
    fun field => timestampWith_ok (isRealTimestamp_strftime hbucket)
  have hparameters : validateOperation "nas.observe_groupware_runtime" (.int 1)
      (.obj [("slot", .str slot)]) = .ok () := by
    have hslot : (ParameterRule.identifier).validate (.str slot) "parameters.slot" = .ok () :=
      require_of (isSafeId_of_isAccount h)
    show (do
      exactKeysWith Exn.registryValidationError (.obj [("slot", .str slot)]) ["slot"] "parameters"
      requireEach (fun rule : String × ParameterRule =>
        rule.2.validate ((Json.obj [("slot", .str slot)]).field rule.1) ("parameters." ++ rule.1))
          [("slot", .identifier)]) = .ok ()
    refine except_bind_ok.mpr ⟨(), rfl, requireEach_ok.mpr fun rule hrule => ?_⟩
    obtain rfl := List.mem_singleton.mp hrule
    exact hslot
  unfold validateManifest
  refine except_bind_ok.mpr ⟨(), rfl, ?_⟩
  refine except_bind_ok.mpr ⟨(), rfl, ?_⟩
  refine except_bind_ok.mpr ⟨(), rfl, ?_⟩
  refine except_bind_ok.mpr ⟨_, hid _, ?_⟩
  refine except_bind_ok.mpr ⟨_, hoperation _, ?_⟩
  refine except_bind_ok.mpr ⟨(), rfl, ?_⟩
  refine except_bind_ok.mpr ⟨_, hid _, ?_⟩
  refine except_bind_ok.mpr ⟨_, hlineage _, ?_⟩
  refine except_bind_ok.mpr ⟨_, hreply _, ?_⟩
  refine except_bind_ok.mpr ⟨_, hsubmitted _, ?_⟩
  refine except_bind_ok.mpr ⟨(), rfl, ?_⟩
  refine except_bind_ok.mpr ⟨(), validateReview_reobservation h, ?_⟩
  refine except_bind_ok.mpr ⟨(), mapError_ok.mpr hparameters, ?_⟩
  rfl

omit [UnicodeData] in
lemma plain_reobservationReview (slot : String) : (reobservationReview slot).plain = true := by
  simp only [reobservationReview, Json.plain, Json.plainItems, Json.plainFields, List.all_cons,
    List.all_nil, Bool.and_true, Bool.and_eq_true, decide_eq_true_eq]
  decide

omit [UnicodeData] in
lemma plain_reobservationManifest (slot : String) (bucket : DateTime) (submittedAt : String) :
    (reobservationManifest slot bucket submittedAt).plain = true := by
  simp only [reobservationManifest, plain_reobservationReview, Json.plain, Json.plainFields,
    List.all_cons, List.all_nil, Bool.and_true, Bool.and_eq_true, decide_eq_true_eq]
  decide

omit [UnicodeData] in
/-- The review is short: all but its target is the same for every slot. -/
lemma size_reobservationReview {slot : String} (h : IsShort ("groupware runtime slot " ++ slot)) :
    Json.sizeWith Json.escapeChar Json.compact (reobservationReview slot) ≤ 6000 := by
  have hcons := @Json.sizeWith_obj_cons_le _ _ Json.escapes_escapeChar Json.short_compact
  have htarget : Json.sizeWith Json.escapeChar Json.compact
      (.arr [.str ("groupware runtime slot " ++ slot)]) ≤ 780 := by
    have hitem := @size_str_le _ Json.compact Json.escapes_escapeChar _ h
    refine (Json.sizeWith_arr_le Json.short_compact _).trans ?_
    simp only [List.map_cons, List.map_nil, List.sum_cons, List.sum_nil]
    omega
  unfold reobservationReview
  refine (hcons (b := 60) (c := 5500) (by decide) (by decide) ?_).trans (by decide)
  refine (hcons (b := 500) (c := 4600) (by decide) (by decide +kernel) ?_).trans (by decide)
  refine (hcons (b := 60) (c := 4100) (by decide) (by decide) ?_).trans (by decide)
  refine (hcons (b := 100) (c := 3600) (by decide) (by decide) ?_).trans (by decide)
  refine (hcons (b := 200) (c := 3000) (by decide) (by decide +kernel) ?_).trans (by decide)
  exact (hcons (by decide) htarget Json.sizeWith_obj_nil_le).trans (by decide)

omit [UnicodeData] in
lemma length_reobservationManifest {slot : String} (h : IsAccount slot) {bucket : DateTime}
    (hbucket : IsBucket bucket) :
    (canonicalManifestBytes (reobservationManifest slot bucket bucket.strftime)).length ≤
      maxManifestBytes := by
  obtain ⟨-, hlen, hchars⟩ := isAccount_chars h
  have hcons := @Json.sizeWith_obj_cons_le _ _ Json.escapes_escapeChar Json.short_compact
  have hstr := fun {s : String} (hs : IsShort s) =>
    @size_str_le _ Json.compact Json.escapes_escapeChar _ hs
  have hslot := isShort_of_isSafeId (isSafeId_of_isAccount h)
  have hjob := isShort_of_isSafeId (isSafeId_jobId h bucket)
  have hlineage := isShort_of_isSafeId (isSafeId_lineageId h)
  have htime := isShort_of_isRealTimestamp (isRealTimestamp_strftime hbucket)
  have htarget : IsShort ("groupware runtime slot " ++ slot) := by
    refine isShort_of_printable ?_ ?_
    · rw [String.toList_append, List.all_append, Bool.and_eq_true,
        List.all_eq_true (l := slot.toList)]
      exact ⟨by decide, fun c hc => isPrintableAscii_of_isIdChar (account_char (hchars c hc)).1⟩
    · rw [String.toList_append, List.length_append]
      have hname : "groupware runtime slot ".toList.length = 23 := by decide
      omega
  have hparameters : Json.sizeWith Json.escapeChar Json.compact (.obj [("slot", .str slot)]) ≤
      1200 := (hcons (by decide) (hstr hslot) Json.sizeWith_obj_nil_le).trans (by decide)
  have hrequest : Json.sizeWith Json.escapeChar Json.compact
      (.obj [("lineage_id", .str ("groupware-reobserve." ++ slot)),
        ("reply_target", .str "ops-groupware-reobserver"),
        ("request_id", .str (reobservationJobId slot bucket)),
        ("submitted_at", .str bucket.strftime)]) ≤ 5000 := by
    refine (hcons (c := 3600) (by decide) (hstr hlineage) ?_).trans (by decide)
    refine (hcons (b := 60) (c := 3000) (by decide) (by decide) ?_).trans (by decide)
    refine (hcons (c := 1800) (by decide) (hstr hjob) ?_).trans (by decide)
    exact (hcons (by decide) (hstr htime) Json.sizeWith_obj_nil_le).trans (by decide)
  have hsize : Json.sizeWith Json.escapeChar Json.compact
      (reobservationManifest slot bucket bucket.strftime) ≤ 30000 := by
    unfold reobservationManifest
    refine (hcons (b := 60) (c := 29000) (by decide) (by decide) ?_).trans (by decide)
    refine (hcons (c := 27000) (by decide) (hstr hjob) ?_).trans (by decide)
    refine (hcons (b := 60) (c := 26000) (by decide) (by decide) ?_).trans (by decide)
    refine (hcons (b := 10) (c := 25000) (by decide) (by decide) ?_).trans (by decide)
    refine (hcons (c := 23000) (by decide) hparameters ?_).trans (by decide)
    refine (hcons (b := 60) (c := 22000) (by decide) (by decide) ?_).trans (by decide)
    refine (hcons (c := 16000) (by decide) hrequest ?_).trans (by decide)
    refine (hcons (c := 9000) (by decide) (size_reobservationReview htarget) ?_).trans (by decide)
    exact (hcons (b := 60) (by decide) (by decide) Json.sizeWith_obj_nil_le).trans
      (by decide)
  rw [length_canonicalManifestBytes]
  have hdumps : (utf8 (reobservationManifest slot bucket bucket.strftime).dumps).length ≤ 30000 :=
    hsize
  unfold maxManifestBytes
  omega

end accepted

/-! ## The plan of a state root -/

section plan

variable [UnicodeData] [FloatData]

/-- The stack has room for the five nested containers of a manifest. -/
def JsonDepth.HasRoom (depth : JsonDepth) : Prop := 5 ≤ depth.loads ∧ 5 ≤ depth.dumps

/-- The job that a manifest is sealed to. -/
def reobservationJob (slot : String) (bucket : DateTime) : SealedJob where
  jobId := reobservationJobId slot bucket
  jobDigest := jobDigestOf (reobservationManifest slot bucket bucket.strftime)
  operationId := "nas.observe_groupware_runtime"
  operationVersion := 1
  requestId := reobservationJobId slot bucket
  lineageId := "groupware-reobserve." ++ slot
  replyTarget := "ops-groupware-reobserver"
  submittedAt := bucket.strftime
  canonicalManifest := reobservationManifest slot bucket bucket.strftime

/-- The bytes of a manifest are sealed. -/
lemma sealManifestBytes_reobservation {depth : JsonDepth} (hdepth : depth.HasRoom) {slot : String}
    (h : IsAccount slot) {bucket : DateTime} (hbucket : IsBucket bucket) :
    sealManifestBytes depth
        (canonicalManifestBytes (reobservationManifest slot bucket bucket.strftime)) =
      .ok (reobservationJob slot bucket) := by
  have hnesting : (reobservationManifest slot bucket bucket.strftime).nesting = 5 := rfl
  have hjob : sealedJobOf (reobservationManifest slot bucket bucket.strftime) =
      .ok (reobservationJob slot bucket) := by
    unfold sealedJobOf
    rw [validateManifest_reobservation h hbucket]
    rfl
  refine sealBytes_ok.mpr ⟨_, ?_, hjob, hnesting.le.trans hdepth.2⟩
  refine (parseObject_canonical (canonical_of_plain (plain_reobservationManifest _ _ _)) rfl
    (hnesting.le.trans hdepth.1) isBlank_newline).trans (if_pos ?_)
  exact length_reobservationManifest h hbucket

lemma buildManifest_ok {depth : JsonDepth} (hdepth : depth.HasRoom) {slot : String}
    (h : IsAccount slot) {bucket : DateTime} (hbucket : IsBucket bucket) :
    buildGroupwareReobservationManifest depth slot bucket =
      .ok (canonicalManifestBytes (reobservationManifest slot bucket bucket.strftime)) := by
  have htimestamp : bucketTimestamp bucket = .ok bucket.strftime := by
    unfold bucketTimestamp
    rw [require_of hbucket.aligned.symm]
    rfl
  unfold buildGroupwareReobservationManifest
  refine except_bind_ok.mpr ⟨slot, orRaise_ok.mpr (validateLinuxAccount_of_isAccount h), ?_⟩
  refine except_bind_ok.mpr ⟨_, htimestamp, ?_⟩
  dsimp only
  rw [sealManifestBytes_reobservation hdepth h hbucket]
  rfl

omit [FloatData] in
/-- A text that is accepted as a timestamp is one. -/
lemma isRealTimestamp_of_safeTimestamp {text field out : String}
    (h : safeTimestamp (.str text) field = .ok out) : isRealTimestamp text = true := by
  have hreal := isRealTimestamp_of_timestampWith h
  unfold safeTimestamp timestampWith safeTextWith at h
  simp only [except_bind_ok, except_pure_ok, orRaise_ok] at h
  obtain ⟨_, ⟨_, hstr, -, -, -, -, -, -, rfl⟩, -, -, -, -, rfl⟩ := h
  cases hstr
  exact hreal

/-- A manifest is built only where its bucket has a timestamp. -/
lemma isRealTimestamp_of_buildManifest {depth : JsonDepth} (hdepth : depth.HasRoom) {slot : String}
    {bucket : DateTime} {manifest : List UInt8}
    (h : buildGroupwareReobservationManifest depth slot bucket = .ok manifest) :
    isRealTimestamp bucket.strftime = true := by
  unfold buildGroupwareReobservationManifest at h
  obtain ⟨slot', -, h⟩ := except_bind_ok.mp h
  obtain ⟨submittedAt, htimestamp, h⟩ := except_bind_ok.mp h
  have hsubmitted : submittedAt = bucket.strftime := by
    unfold bucketTimestamp at htimestamp
    obtain ⟨-, -, htimestamp⟩ := except_bind_ok.mp htimestamp
    exact (except_pure_ok.mp htimestamp).symm
  subst hsubmitted
  cases hseal : sealManifestBytes depth
      (canonicalManifestBytes (reobservationManifest slot' bucket bucket.strftime)) with
  | error exc =>
      dsimp only at h
      rw [hseal] at h
      cases h
  | ok job =>
      obtain ⟨value, hparse, hjob, -⟩ := sealBytes_ok.mp hseal
      have hvalue : value = reobservationManifest slot' bucket bucket.strftime := by
        have hnesting : (reobservationManifest slot' bucket bucket.strftime).nesting = 5 := rfl
        have hcanonical := @parseObject_canonical _ manifestErrors _ _
          (canonical_of_plain (plain_reobservationManifest slot' bucket bucket.strftime)) rfl
          (hnesting.le.trans hdepth.1) _ isBlank_newline
        rw [show utf8 ((reobservationManifest slot' bucket bucket.strftime).dumps ++ _) =
          canonicalManifestBytes (reobservationManifest slot' bucket bucket.strftime) from rfl,
          hparse] at hcanonical
        split_ifs at hcanonical
        exact Except.ok.inj hcanonical
      subst hvalue
      unfold sealedJobOf at hjob
      obtain ⟨m, hvalid, -⟩ := except_bind_ok.mp hjob
      unfold validateManifest at hvalid
      simp only [except_bind_ok, except_pure_ok] at hvalid
      obtain ⟨-, -, -, -, -, -, -, -, -, -, -, -, -, -, -, -, -, -, submittedAt, hsubmitted, -⟩ :=
        hvalid
      exact isRealTimestamp_of_safeTimestamp hsubmitted

/-- The manifest of a slot. -/
def plannedFor (bucket : DateTime) (slot : String) : PlannedReobservation :=
  ⟨slot, canonicalManifestBytes (reobservationManifest slot bucket bucket.strftime)⟩

omit [UnicodeData] [FloatData] in
lemma exceptMapM_of {α β : Type} {f : α → Except ReobservationRaised β} {g : α → β} {items : List α}
    (h : ∀ a ∈ items, f a = .ok (g a)) : items.mapM f = .ok (items.map g) := by
  induction items with
  | nil => rfl
  | cons a items ih =>
      rw [List.mapM_cons]
      exact except_bind_ok.mpr ⟨g a, h a List.mem_cons_self,
        except_bind_ok.mpr ⟨_, ih fun b hb => h b (List.mem_cons_of_mem a hb), rfl⟩⟩

variable [Yaml.PythonRepr]

/-- The plan has a manifest for each declared slot. -/
lemma planGroupwareReobservations_ok {depth : JsonDepth} (hdepth : depth.HasRoom)
    {root : StateRoot} {slots : List String} (h : declaredGroupwareSlots root = .ok slots)
    {now : AwareTime} (hnow : InCentury now) :
    planGroupwareReobservations depth root now =
      .ok (slots.map (plannedFor (aligned (DateTime.ofSeconds now.seconds)))) := by
  have hbucket := isBucket_of_inCentury hnow
  have haccounts := (declaredGroupwareSlots_ok h).2
  unfold planGroupwareReobservations
  refine except_bind_ok.mpr ⟨_, observationBucket_of_inCentury hnow, ?_⟩
  refine except_bind_ok.mpr ⟨slots, h, ?_⟩
  refine exceptMapM_of fun slot hslot => ?_
  rw [buildManifest_ok hdepth (haccounts slot hslot) hbucket]
  rfl

/-! ## Job ids -/

omit [UnicodeData] [FloatData] [Yaml.PythonRepr] in
lemma digitChar_inj {a b : Nat} (ha : a < 10) (hb : b < 10)
    (h : Nat.digitChar a = Nat.digitChar b) : a = b := by
  rcases lt_trichotomy a b with hlt | heq | hlt
  · exact absurd h (DateTime.digitChar_lt hlt hb).ne
  · exact heq
  · exact absurd h (DateTime.digitChar_lt hlt ha).ne'

omit [UnicodeData] [FloatData] [Yaml.PythonRepr] in
lemma twoDigits_inj {a b : Nat} (h : DateTime.twoDigits a = DateTime.twoDigits b) :
    a % 100 = b % 100 := by
  unfold DateTime.twoDigits at h
  obtain ⟨htens, hrest⟩ := List.cons.inj h
  have hones := (List.cons.inj hrest).1
  have h₁ := digitChar_inj (Nat.mod_lt _ (by decide)) (Nat.mod_lt _ (by decide)) htens
  have h₂ := digitChar_inj (Nat.mod_lt _ (by decide)) (Nat.mod_lt _ (by decide)) hones
  omega

omit [UnicodeData] [FloatData] [Yaml.PythonRepr] in
/-- The token names the bucket. -/
lemma bucketToken_inj {bucket bucket' : DateTime} (h : IsBucket bucket) (h' : IsBucket bucket')
    (htoken : bucketToken bucket = bucketToken bucket') : bucket = bucket' := by
  have hlist := congrArg String.toList htoken
  unfold bucketToken at hlist
  rw [String.toList_ofList, String.toList_ofList] at hlist
  obtain ⟨hlist, -⟩ := List.append_inj' hlist rfl
  obtain ⟨hlist, hminute⟩ := List.append_inj' hlist rfl
  obtain ⟨hlist, hhour⟩ := List.append_inj' hlist rfl
  obtain ⟨hlist, hday⟩ := List.append_inj' hlist rfl
  obtain ⟨hlist, hmonth⟩ := List.append_inj' hlist rfl
  obtain ⟨-, hyear⟩ := List.append_inj' hlist rfl
  have hyear := twoDigits_inj hyear
  have hmonth := twoDigits_inj hmonth
  have hday := twoDigits_inj hday
  have hhour := twoDigits_inj (List.cons.inj hhour).2
  have hminute := twoDigits_inj hminute
  have hsecond : bucket.second = 0 := congrArg DateTime.second h.aligned.symm
  have hsecond' : bucket'.second = 0 := congrArg DateTime.second h'.aligned.symm
  obtain ⟨hreal, -, hlow, hhigh⟩ := h
  obtain ⟨hreal', -, hlow', hhigh'⟩ := h'
  obtain ⟨-, -, hm, -, hd, hh, hi, -⟩ := of_decide_eq_true hreal
  obtain ⟨-, -, hm', -, hd', hh', hi', -⟩ := of_decide_eq_true hreal'
  have hmonthDays : ∀ y m, DateTime.daysInMonth y m ≤ 31 := by
    intro y m
    unfold DateTime.daysInMonth
    split_ifs <;> omega
  have hd₁ := hd.trans (hmonthDays _ _)
  have hd₂ := hd'.trans (hmonthDays _ _)
  obtain ⟨year, month, day, hour, minute, second⟩ := bucket
  obtain ⟨year', month', day', hour', minute', second'⟩ := bucket'
  dsimp only at *
  rw [DateTime.mk.injEq]
  omega

omit [UnicodeData] [FloatData] [Yaml.PythonRepr] in
/-- The id of a job names its slot and its bucket. -/
lemma reobservationJobId_inj {slot slot' : String} {bucket bucket' : DateTime}
    (h : IsBucket bucket) (h' : IsBucket bucket')
    (hid : reobservationJobId slot bucket = reobservationJobId slot' bucket') :
    slot = slot' ∧ bucket = bucket' := by
  have hlist := congrArg String.toList hid
  rw [toList_reobservationJobId, toList_reobservationJobId] at hlist
  have hlist := List.append_cancel_left hlist
  have htokens : ('.' :: (bucketToken bucket).toList).length =
      ('.' :: (bucketToken bucket').toList).length := by
    rw [List.length_cons, List.length_cons, (bucketToken_chars bucket).1,
      (bucketToken_chars bucket').1]
  obtain ⟨hslot, htoken⟩ := List.append_inj' hlist htokens
  exact ⟨String.toList_inj.mp hslot,
    bucketToken_inj h h' (String.toList_inj.mp (List.cons.inj htoken).2)⟩

omit [UnicodeData] [FloatData] [Yaml.PythonRepr] in
/-- The bucket names the quarter. -/
lemma quarter_of_bucket {t t' : AwareTime} (ht : 0 ≤ t.micros) (ht' : 0 ≤ t'.micros)
    (h : aligned (DateTime.ofSeconds t.seconds) = aligned (DateTime.ofSeconds t'.seconds)) :
    t.quarter = t'.quarter := by
  rw [aligned_ofSeconds, aligned_ofSeconds] at h
  have hseconds := congrArg DateTime.toSeconds h
  rw [(DateTime.ofSeconds_spec _).2, (DateTime.ofSeconds_spec _).2] at hseconds
  unfold AwareTime.seconds at hseconds
  unfold AwareTime.quarter
  omega

/-- **Every declared slot is observed.**  For every state root whose slots are accepted and every
time of a year from 2000 to 2099 in UTC, the plan has exactly one manifest for each slot, and each
is sealed with parameters that name the slot; times of one quarter of an hour in UTC have the same
plan, and a job id names its slot and its quarter. -/
theorem declared_slots_observed {depth : JsonDepth} (hdepth : depth.HasRoom) {root : StateRoot}
    {slots : List String} (h : declaredGroupwareSlots root = .ok slots) :
    slots.Nodup ∧
    (∀ now, InCentury now → ∃ plans, planGroupwareReobservations depth root now = .ok plans ∧
      plans.map PlannedReobservation.slot = slots ∧
      ∀ plan ∈ plans, ∃ job, sealManifestBytes depth plan.manifest = .ok job ∧
        job.canonicalManifest.field "parameters" = .obj [("slot", .str plan.slot)]) ∧
    (∀ now now', InCentury now → InCentury now' → now.quarter = now'.quarter →
      planGroupwareReobservations depth root now = planGroupwareReobservations depth root now') ∧
    ∀ now now', InCentury now → InCentury now' → ∀ plans plans',
      planGroupwareReobservations depth root now = .ok plans →
      planGroupwareReobservations depth root now' = .ok plans' →
      ∀ plan ∈ plans, ∀ plan' ∈ plans', ∀ job job',
        sealManifestBytes depth plan.manifest = .ok job →
        sealManifestBytes depth plan'.manifest = .ok job' → job.jobId = job'.jobId →
          plan.slot = plan'.slot ∧ now.quarter = now'.quarter := by
  obtain ⟨hnodup, haccounts⟩ := declaredGroupwareSlots_ok h
  have hseal : ∀ {now}, InCentury now → ∀ slot ∈ slots,
      sealManifestBytes depth
        (plannedFor (aligned (DateTime.ofSeconds now.seconds)) slot).manifest =
          .ok (reobservationJob slot (aligned (DateTime.ofSeconds now.seconds))) :=
    fun hnow slot hslot => sealManifestBytes_reobservation hdepth (haccounts slot hslot)
      (isBucket_of_inCentury hnow)
  refine ⟨hnodup, fun now hnow => ⟨_, planGroupwareReobservations_ok hdepth h hnow, ?_, ?_⟩, ?_, ?_⟩
  · rw [List.map_map]
    exact List.map_id slots
  · intro plan hplan
    obtain ⟨slot, hslot, rfl⟩ := List.mem_map.mp hplan
    exact ⟨_, hseal hnow slot hslot, rfl⟩
  · intro now now' hnow hnow' hquarter
    rw [planGroupwareReobservations_ok hdepth h hnow, planGroupwareReobservations_ok hdepth h hnow',
      bucket_congr hnow.1 hnow'.1 hquarter]
  · intro now now' hnow hnow' plans plans' hplans hplans' plan hplan plan' hplan' job job' hjob hjob'
      hid
    rw [planGroupwareReobservations_ok hdepth h hnow] at hplans
    rw [planGroupwareReobservations_ok hdepth h hnow'] at hplans'
    cases hplans
    cases hplans'
    obtain ⟨slot, hslot, rfl⟩ := List.mem_map.mp hplan
    obtain ⟨slot', hslot', rfl⟩ := List.mem_map.mp hplan'
    rw [hseal hnow slot hslot] at hjob
    rw [hseal hnow' slot' hslot'] at hjob'
    cases hjob
    cases hjob'
    obtain ⟨hslots, hbuckets⟩ := reobservationJobId_inj (isBucket_of_inCentury hnow)
      (isBucket_of_inCentury hnow') hid
    exact ⟨hslots, quarter_of_bucket hnow.1 hnow'.1 hbuckets⟩

end plan

/-! ## A declared slot -/

section samples

attribute [local instance] UnicodeData.asciiOnly FloatData.zero

/-- Nothing but strings has a text. -/
@[reducible] def sampleRepr : Yaml.PythonRepr := ⟨fun _ => ""⟩

attribute [local instance] sampleRepr

/-- A state root that declares one slot. -/
def declaringRoot : StateRoot where
  bindings := some [{
    instanceId := "00000000-0000-0000-0000-000000000001", linuxAccount := "a"
    publicHost := "a.example", family := "hermes", runtimeClass := "customer"
    gatewayPort := 1, bridgePort := 2 }]
  views := some (.map [(.str "corpus_views",
    .map [(.str "a", .map [(.str "groupware", .map [])])])])

/-- The first hour of the year 2000 in Seoul. -/
def seoulNewYear : AwareTime where
  clock := ⟨2000, 1, 1, 0, 0, 0⟩
  microsecond := 0
  offset := 32400000000
  real := by decide

/-- The first hour of the year 2026 in UTC. -/
def utcNewYear : AwareTime where
  clock := ⟨2026, 1, 1, 0, 0, 0⟩
  microsecond := 0
  offset := 0
  real := by decide

lemma declared_declaringRoot : declaredGroupwareSlots declaringRoot = .ok ["a"] := by
  decide +kernel

theorem declaringRoot_observed :
    ∃ plans, planGroupwareReobservations ⟨900, 900⟩ declaringRoot utcNewYear = .ok plans ∧
      plans.map PlannedReobservation.slot = ["a"] := by
  have hdepth : JsonDepth.HasRoom ⟨900, 900⟩ := by
    unfold JsonDepth.HasRoom
    decide
  have hnow : InCentury utcNewYear := by
    unfold InCentury
    decide
  obtain ⟨plans, hplans, hslots, -⟩ :=
    (declared_slots_observed hdepth declared_declaringRoot).2.1 utcNewYear hnow
  exact ⟨plans, hplans, hslots⟩

/-- A time of the year 2000 that is one of the year 1999 in UTC. -/
theorem seoulNewYear_refused :
    declaredGroupwareSlots declaringRoot = .ok ["a"] ∧ seoulNewYear.clock.year = 2000 ∧
      ¬ ∃ plans, planGroupwareReobservations ⟨900, 900⟩ declaringRoot seoulNewYear = .ok plans := by
  refine ⟨declared_declaringRoot, rfl, ?_⟩
  rintro ⟨plans, hplans⟩
  have hbucket : observationBucket seoulNewYear = .ok ⟨1999, 12, 31, 15, 0, 0⟩ := by decide
  unfold planGroupwareReobservations at hplans
  obtain ⟨bucket, hb, hplans⟩ := except_bind_ok.mp hplans
  obtain ⟨slots, hs, hplans⟩ := except_bind_ok.mp hplans
  rw [hbucket] at hb
  rw [declared_declaringRoot] at hs
  cases hb
  cases hs
  rw [List.mapM_cons] at hplans
  obtain ⟨plan, hplan, -⟩ := except_bind_ok.mp hplans
  obtain ⟨manifest, hmanifest, -⟩ := except_bind_ok.mp hplan
  have hreal := isRealTimestamp_of_buildManifest (by unfold JsonDepth.HasRoom; decide) hmanifest
  exact absurd hreal (by decide)

end samples

end AgentRuntimeOps.RootActions
