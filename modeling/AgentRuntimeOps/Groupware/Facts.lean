import AgentRuntimeOps.Groupware.Observation

/-!
# The facts of an observation

The public facts of an observation are counted one by one from the probes.  `observation_published`
says that they agree with each other and that a receipt with them is sealed.
-/

namespace AgentRuntimeOps.Groupware

open Lib RootActions

variable {observation : RuntimeObservation} {slot : String}

/-! ## Counting -/

/-- The classes of a probe. -/
lemma failureClass_cases (probe : DeclaredPathProbe) :
    probe.failureClass ∈ [FailureClass.mountMissing, .sourceMismatch, .accessDenied,
      .emptyReadable, .observerContractMismatch, .healthy] := by
  unfold DeclaredPathProbe.failureClass DeclaredPathProbe.mountFailureClass
    ProbeRow.boundedProbeOutcome
  dsimp only
  split_ifs <;> decide

/-- The outcomes of a search. -/
lemma boundedProbeOutcome_cases (row : ProbeRow) :
    row.boundedProbeOutcome ∈ [FailureClass.healthy, .accessDenied, .emptyReadable,
      .observerContractMismatch] := by
  unfold ProbeRow.boundedProbeOutcome
  split_ifs <;> decide

/-- What is one of some different classes is counted once. -/
lemma sum_countP {α : Type} (f : α → FailureClass) (l : List α) {classes : List FailureClass}
    (hnodup : classes.Nodup) (hmem : ∀ a, f a ∈ classes) :
    (classes.map fun failure => l.countP fun a => f a = failure).sum = l.length := by
  induction l with
  | nil => simp
  | cons a l ih =>
      have hone : (classes.map fun failure => if f a = failure then 1 else 0).sum = 1 := by
        have hcount : (classes.map fun failure => if f a = failure then 1 else 0).sum =
            classes.count (f a) := by
          clear hnodup hmem ih
          induction classes with
          | nil => rfl
          | cons failure classes ih =>
              rw [List.map_cons, List.sum_cons, ih, List.count_cons, Nat.add_comm]
              congr 1
              exact if_congr (by rw [beq_iff_eq, eq_comm]) rfl rfl
        rw [hcount]
        exact List.count_eq_one_of_mem hnodup (hmem a)
      have hcons : ∀ failure, (a :: l).countP (fun a => f a = failure) =
          l.countP (fun a => f a = failure) + if f a = failure then 1 else 0 := fun failure => by
        rw [List.countP_cons]
        simp only [decide_eq_true_eq]
      rw [List.map_congr_left fun failure _ => hcons failure, List.sum_map_add, ih, hone]
      rfl

/-- A mount that fails no check is verified. -/
lemma mountFailureClass_eq_none_iff (probe : DeclaredPathProbe) :
    probe.mountFailureClass = none ↔
      probe.hostMount.verified = true ∧ probe.containerMount.verified = true := by
  obtain ⟨⟨present, sourceMatch, readonly⟩, ⟨present', sourceMatch', readonly'⟩, row⟩ := probe
  unfold DeclaredPathProbe.mountFailureClass MountState.verified
  dsimp only
  constructor
  · intro h
    split_ifs at h with hpresent hpresent' hsource hsource' hreadonly
    simp only [List.all_cons, List.all_nil, List.any_cons, List.any_nil, Bool.and_true,
      Bool.or_false, Bool.not_eq_true, Bool.not_eq_false', Bool.and_eq_true,
      Bool.or_eq_false_iff, decide_eq_true_eq, decide_eq_false_iff_not, ne_eq, not_not]
      at hpresent' hsource' hreadonly
    simp [hpresent', hsource', hreadonly]
  · intro h
    simp only [decide_eq_true_eq] at h
    simp [h]

/-- A probe is healthy exactly if both mounts are verified and a file is listed and read. -/
lemma failureClass_eq_healthy_iff (probe : DeclaredPathProbe) :
    probe.failureClass = .healthy ↔
      (probe.hostMount.verified = true ∧ probe.containerMount.verified = true) ∧
        probe.row.listOk = some true ∧ probe.row.openReadOk = some true := by
  have hrow : probe.row.boundedProbeOutcome = .healthy ↔
      probe.row.listOk = some true ∧ probe.row.openReadOk = some true := by
    unfold ProbeRow.boundedProbeOutcome
    split_ifs with hhealthy
    · exact iff_of_true rfl hhealthy
    · exact iff_of_false nofun hhealthy
    · exact iff_of_false nofun hhealthy
    · exact iff_of_false nofun hhealthy
  have hmounts : probe.mountFailureClass ≠ some .healthy := by
    unfold DeclaredPathProbe.mountFailureClass
    dsimp only
    split_ifs <;> exact nofun
  unfold DeclaredPathProbe.failureClass
  rw [← mountFailureClass_eq_none_iff, ← hrow]
  cases hfailure : probe.mountFailureClass with
  | none => simp
  | some failure =>
      refine iff_of_false (fun h => hmounts (hfailure.trans (congrArg some h))) fun h => ?_
      cases h.1

/-- Some probes are healthy as a whole exactly if there are some and each is. -/
lemma aggregateFailureClass_eq_healthy_iff (probes : List DeclaredPathProbe) :
    aggregateFailureClass probes = .healthy ↔
      probes ≠ [] ∧ ∀ probe ∈ probes, probe.failureClass = .healthy := by
  unfold aggregateFailureClass
  split_ifs with hempty
  · exact iff_of_false nofun fun h => h.1 hempty
  have hnone : ((probes.map DeclaredPathProbe.failureClass).filter (· ≠ .healthy)).dedup = [] ↔
      ∀ probe ∈ probes, probe.failureClass = .healthy := by
    rw [List.dedup_eq_nil, List.filter_eq_nil_iff, List.forall_mem_map]
    simp
  rw [← hnone]
  split
  case h_1 hdedup => exact iff_of_true rfl ⟨hempty, hdedup⟩
  case h_2 failure hdedup =>
    refine iff_of_false ?_ fun h => ?_
    · rintro rfl
      have hmem : FailureClass.healthy ∈
          ((probes.map DeclaredPathProbe.failureClass).filter (· ≠ .healthy)).dedup := by
        rw [hdedup]
        exact List.mem_singleton_self _
      rw [List.mem_dedup, List.mem_filter] at hmem
      exact of_decide_eq_true hmem.2 rfl
    · rw [hdedup] at h
      cases h.2
  case h_3 hnot _ =>
    exact iff_of_false nofun fun h => hnot h.2

/-! ## Consistency -/

/-- The classes of the probes are all probes. -/
lemma consistent_classes (observation : RuntimeObservation) :
    ∃ missing mismatch denied empty contract declared,
      Shows observation "mount_missing_count" missing ∧
      Shows observation "source_mismatch_count" mismatch ∧
      Shows observation "access_denied_count" denied ∧
      Shows observation "empty_readable_count" empty ∧
      Shows observation "observer_contract_mismatch_count" contract ∧
      Shows observation "declared_path_count" declared ∧
      missing + mismatch + denied + empty + contract + observation.classCount .healthy =
        declared := by
  refine ⟨observation.classCount .mountMissing, observation.classCount .sourceMismatch,
    observation.classCount .accessDenied, observation.classCount .emptyReadable,
    observation.classCount .observerContractMismatch, observation.probes.length,
    ?_, ?_, ?_, ?_, ?_, ?_, ?_⟩
  iterate 6
    simp [Shows, RuntimeObservation.publicFacts, List.lookup]
  have hsum := sum_countP DeclaredPathProbe.failureClass observation.probes (by decide)
    failureClass_cases
  rw [← hsum]
  simp only [List.map_cons, List.map_nil, List.sum_cons, List.sum_nil, add_zero, ← add_assoc]
  rfl

/-- The outcomes of the searches are those of all probes. -/
lemma consistent_outcomes (observation : RuntimeObservation) :
    ∃ readable denied empty contract declared,
      Shows observation "bounded_probe_open_read_count" readable ∧
      Shows observation "bounded_probe_access_denied_count" denied ∧
      Shows observation "bounded_probe_empty_readable_count" empty ∧
      Shows observation "bounded_probe_contract_mismatch_count" contract ∧
      Shows observation "declared_path_count" declared ∧
      readable + denied + empty + contract = declared := by
  refine ⟨observation.probeCount .healthy, observation.probeCount .accessDenied,
    observation.probeCount .emptyReadable, observation.probeCount .observerContractMismatch,
    observation.probes.length, ?_, ?_, ?_, ?_, ?_, ?_⟩
  iterate 5
    simp [Shows, RuntimeObservation.publicFacts, List.lookup]
  have hsum := sum_countP (fun probe : DeclaredPathProbe => probe.row.boundedProbeOutcome)
    observation.probes (by decide) fun probe => boundedProbeOutcome_cases probe.row
  rw [← hsum]
  simp only [List.map_cons, List.map_nil, List.sum_cons, List.sum_nil, add_zero, ← add_assoc]
  rfl

/-- Numbers with the same text are the same. -/
lemma toString_nat_inj {m n : Nat} : toString m = toString n ↔ m = n := by
  refine ⟨fun h => ?_, congrArg _⟩
  rw [Nat.toString_eq_ofList_toDigits, Nat.toString_eq_ofList_toDigits, String.ofList_inj] at h
  rw [← @Nat.ofDigitChars_ten_toDigits m, h, Nat.ofDigitChars_ten_toDigits]

/-- A count is the number of probes exactly if it counts each. -/
lemma count_eq_length_iff {p : DeclaredPathProbe → Bool} :
    observation.count p = observation.probes.length ↔
      ∀ probe ∈ observation.probes, p probe = true := List.countP_eq_length

/-- What the facts of an observation with counts show of its status. -/
lemma consistent_status {requested effective : Nat}
    (hrequested : observation.requestedPathCount = some requested)
    (heffective : observation.effectivePathCount = some effective)
    (hdeclared : observation.probes.length = effective)
    (hstatus : observation.status =
      (reportedClass requested effective observation.probes).status) :
    observation.publicFacts.lookup "status" = some "healthy" ↔ ∃ n, 0 < n ∧
      Shows observation "requested_path_count" n ∧ Shows observation "effective_path_count" n ∧
      Shows observation "declared_path_count" n ∧
      Shows observation "host_mount_verified_count" n ∧
      Shows observation "container_mount_verified_count" n ∧
      Shows observation "list_verified_count" n ∧
      Shows observation "open_read_verified_count" n := by
  have hhealthy : observation.publicFacts.lookup "status" = some "healthy" ↔
      reportedClass requested effective observation.probes = .healthy := by
    have hlookup : observation.publicFacts.lookup "status" = some observation.status.text := by
      simp [RuntimeObservation.publicFacts, List.lookup]
    rw [hlookup, hstatus]
    cases reportedClass requested effective observation.probes <;> decide
  have hshows : ∀ n, (Shows observation "requested_path_count" n ∧
      Shows observation "effective_path_count" n ∧ Shows observation "declared_path_count" n ∧
      Shows observation "host_mount_verified_count" n ∧
      Shows observation "container_mount_verified_count" n ∧
      Shows observation "list_verified_count" n ∧
      Shows observation "open_read_verified_count" n) ↔
      requested = n ∧ effective = n ∧ observation.probes.length = n ∧
        observation.count (·.hostMount.verified) = n ∧
        observation.count (·.containerMount.verified) = n ∧
        observation.count (·.row.listOk = some true) = n ∧
        observation.count (·.row.openReadOk = some true) = n := by
    intro n
    simp [Shows, RuntimeObservation.publicFacts, List.lookup, hrequested, heffective,
      RuntimeObservation.publicCount, toString_nat_inj, -Nat.toString_eq_repr]
  have hreported : reportedClass requested effective observation.probes = .healthy ↔
      requested = effective ∧ observation.probes ≠ [] ∧
        ∀ probe ∈ observation.probes, probe.failureClass = .healthy := by
    unfold reportedClass
    by_cases hcounts : requested = effective
    · rw [if_neg (not_not.mpr hcounts), aggregateFailureClass_eq_healthy_iff]
      exact (and_iff_right hcounts).symm
    · rw [if_pos hcounts]
      exact iff_of_false (by decide) fun h => hcounts h.1
  have hall : (∀ probe ∈ observation.probes, probe.failureClass = .healthy) ↔
      observation.count (·.hostMount.verified) = observation.probes.length ∧
      observation.count (·.containerMount.verified) = observation.probes.length ∧
      observation.count (·.row.listOk = some true) = observation.probes.length ∧
      observation.count (·.row.openReadOk = some true) = observation.probes.length := by
    simp only [count_eq_length_iff, failureClass_eq_healthy_iff, decide_eq_true_eq,
      ← forall₂_and, and_assoc]
  rw [hhealthy, hreported, hall]
  constructor
  · rintro ⟨rfl, hne, hcounts⟩
    refine ⟨requested, ?_, (hshows _).mpr ⟨rfl, rfl, hdeclared, hdeclared ▸ hcounts⟩⟩
    rw [← hdeclared]
    exact List.length_pos_of_ne_nil hne
  · rintro ⟨n, hpos, hcounts⟩
    obtain ⟨rfl, rfl, hlength, hcounts⟩ := (hshows n).mp hcounts
    refine ⟨rfl, List.ne_nil_of_length_pos (hlength ▸ hpos), hlength.symm ▸ hcounts⟩

lemma length_probesOf (runtime : ResolvedRuntime)
    (hostTable containerTable : Option (List Mounts.Mountinfo.Row)) (results : List ProbeRow)
    (hresults : results.length = runtime.aliases.length) :
    (probesOf runtime hostTable containerTable results).length =
      runtime.effectivePaths.length := by
  unfold probesOf
  rw [List.length_map, List.length_zip, List.length_zip, hresults, runtime.aliased,
    runtime.expected, min_self, min_self]

/-- The facts of every observation agree with each other. -/
lemma consistent_of_observed (h : Observed slot observation) : Consistent observation := by
  refine ⟨consistent_classes _, consistent_outcomes _, ?_⟩
  cases h with
  | observed runtime principal hostTable containerTable results =>
      exact consistent_status rfl rfl (length_probesOf _ _ _ _ results.2) rfl
  | unresolved hreason =>
      refine iff_of_false ?_ ?_
      · simp [RuntimeObservation.publicFacts, unresolvedObservation, Status.text, List.lookup]
      · rintro ⟨n, hpos, -, -, hdeclared, -⟩
        simp only [Shows, RuntimeObservation.publicFacts, unresolvedObservation, List.lookup,
          String.reduceBEq, Option.some.injEq, List.length_nil, toString_nat_inj] at hdeclared
        omega

/-! ## The receipt -/

/-- A short printable text. -/
structure IsFactValue (value : String) : Prop where
  ne_empty : value ≠ ""
  printable : value.toList.all isPrintableAscii = true
  short : value.toList.length ≤ 128

section receipts

variable [UnicodeData]

lemma receiptText_ok {value : String} (h : IsFactValue value) (field : String) :
    receiptText (.str value) field 4096 = .ok value :=
  safeTextWith_ok h.ne_empty h.printable (h.short.trans (by decide))

/-- The items of facts. -/
def factItems (facts : List (String × String)) : List Json :=
  facts.map fun fact => .obj [("name", .str fact.1), ("value", .str fact.2)]

/-- Facts with safe names and short values pass their checks. -/
lemma validateFacts_ok {facts : List (String × String)}
    (h : ∀ fact ∈ facts, isSafeId fact.1 = true ∧ IsFactValue fact.2) (start : Nat) :
    validateFacts ((factItems facts).zipIdx start) = .ok facts := by
  induction facts generalizing start with
  | nil => rfl
  | cons fact facts ih =>
      obtain ⟨⟨hname, hvalue⟩, hrest⟩ := List.forall_mem_cons.mp h
      have hfact : validateFact (.obj [("name", .str fact.1), ("value", .str fact.2)]) start =
          .ok fact := by
        have hname' : (Json.obj [("name", .str fact.1), ("value", .str fact.2)]).field "name" =
          .str fact.1 := rfl
        have hvalue' : (Json.obj [("name", .str fact.1), ("value", .str fact.2)]).field "value" =
          .str fact.2 := rfl
        unfold validateFact exact
        dsimp only
        rw [require_of ⟨rfl, rfl⟩, hname', hvalue', receiptId_ok hname, receiptText_ok hvalue]
        rfl
      show (do
        let pair ← validateFact (.obj [("name", .str fact.1), ("value", .str fact.2)]) start
        let pairs ← validateFacts ((factItems facts).zipIdx (start + 1))
        return pair :: pairs) = _
      rw [hfact, ih hrest]
      rfl

omit [UnicodeData] in
/-- The facts carry neither a terminal status nor a part of the execution observation. -/
lemma validatePublicObservationFacts_ok {facts : List (String × String)}
    (h : ∀ name ∈ facts.map Prod.fst, name ≠ "terminal_outcome" ∧ name ≠ "terminal_status" ∧
      name ∉ executionObservationFactOrder) :
    validatePublicObservationFacts facts = .ok () := by
  have hobserved : (facts.map Prod.fst).filter (· ∈ executionObservationFactOrder) = [] :=
    List.filter_eq_nil_iff.mpr fun name hname => by simpa using (h name hname).2.2
  unfold validatePublicObservationFacts
  dsimp only
  rw [require_of fun name hname => ⟨(h name hname).1, (h name hname).2.1⟩]
  exact if_pos hobserved

/-- What the facts of a result must be like for a receipt with them to be sealed. -/
structure Publishable (facts : List (String × String)) : Prop where
  few : facts.length ≤ 64
  names : ∀ fact ∈ facts, isSafeId fact.1 = true
  values : ∀ fact ∈ facts, IsFactValue fact.2
  nodup : (facts.map Prod.fst).Nodup
  plain : ∀ name ∈ facts.map Prod.fst, name ≠ "terminal_outcome" ∧ name ≠ "terminal_status" ∧
    name ∉ executionObservationFactOrder

/-- The result section passes its checks. -/
lemma validateResult_ok {facts : List (String × String)} {status : String}
    (h : Publishable facts) (hstatus : isSafeId status = true) :
    validateResult (.obj [("facts", .arr (factItems facts)), ("status", .str status)]) =
      .ok () := by
  have hfacts : (Json.obj [("facts", .arr (factItems facts)), ("status", .str status)]).field
    "facts" = .arr (factItems facts) := rfl
  have hstatus' : (Json.obj [("facts", .arr (factItems facts)), ("status", .str status)]).field
    "status" = .str status := rfl
  have hlength : (factItems facts).length ≤ 128 := by
    rw [factItems, List.length_map]
    exact h.few.trans (by decide)
  have hpairs : validateFacts (factItems facts).zipIdx = .ok facts :=
    validateFacts_ok (fun fact hfact => ⟨h.names fact hfact, h.values fact hfact⟩) 0
  unfold validateResult exact
  rw [require_of ⟨rfl, rfl⟩, hstatus', receiptId_ok hstatus, hfacts]
  change (do
    require ((factItems facts).length ≤ 128) _
    let pairs ← validateFacts (factItems facts).zipIdx
    require ((pairs.map Prod.fst).Nodup) _
    convert (validatePublicObservationFacts pairs) (fun _ => true) _) = _
  rw [require_of hlength, hpairs]
  change (do
    require ((facts.map Prod.fst).Nodup) _
    convert (validatePublicObservationFacts facts) (fun _ => true) _) = _
  rw [require_of h.nodup, validatePublicObservationFacts_ok h.plain]
  rfl

/-- The receipt of an execution passes its checks. -/
lemma validateReceipt_executionReceipt {job : SealedJob} {result : HandlerResult}
    {facts : List (String × String)} {status rawReceiptDigest startedAt endedAt : String}
    (hjob : job.WellFormed) (hraw : isDigest rawReceiptDigest = true)
    (hstarted : isRealTimestamp startedAt = true) (hended : isRealTimestamp endedAt = true)
    (horder : ¬endedAt < startedAt) (hfacts : Publishable facts) (hstatus : isSafeId status = true)
    (hresult : result.publicResult =
      .obj [("facts", .arr (factItems facts)), ("status", .str status)]) :
    validateReceipt (executionReceipt job result rawReceiptDigest startedAt endedAt) = .ok () := by
  have hcommon : validateCommon
      (executionReceipt job result rawReceiptDigest startedAt endedAt) true = .ok () :=
    validateCommon_ok hjob rfl rfl rfl rfl rfl rfl fun _ => ⟨rawReceiptDigest, rfl, hraw⟩
  have houtcome : outcomeIn (executionReceipt job result rawReceiptDigest startedAt endedAt)
      ["succeeded", "failed"] "public receipt has an invalid terminal_outcome" = .ok () := by
    have hfield : (executionReceipt job result rawReceiptDigest startedAt endedAt).field
      "terminal_outcome" = .str result.terminalOutcome := rfl
    unfold outcomeIn
    rw [hfield]
    obtain houtcome | houtcome := result.outcome_mem
    · rw [houtcome]
      rfl
    · rw [houtcome]
      rfl
  have hstarted' : (executionReceipt job result rawReceiptDigest startedAt endedAt).field
    "started_at" = .str startedAt := rfl
  have hended' : (executionReceipt job result rawReceiptDigest startedAt endedAt).field
    "ended_at" = .str endedAt := rfl
  have hstartedOk : receiptTimestamp (.str startedAt) "started_at" = .ok startedAt :=
    timestampWith_ok hstarted
  have hendedOk : receiptTimestamp (.str endedAt) "ended_at" = .ok endedAt :=
    timestampWith_ok hended
  have hresult' : (executionReceipt job result rawReceiptDigest startedAt endedAt).field
    "result" = .obj [("facts", .arr (factItems facts)), ("status", .str status)] := hresult
  change validatePublic (executionReceipt job result rawReceiptDigest startedAt endedAt) = .ok ()
  unfold validatePublic exact
  rw [require_of ⟨rfl, rfl⟩, hcommon, houtcome, hstarted', hended', hstartedOk, hendedOk, hresult',
    validateResult_ok hfacts hstatus]
  change (do
    require (¬endedAt < startedAt) _
    _) = _
  rw [require_of horder]
  rfl

omit [UnicodeData] in
/-- A short printable text is short for a receipt. -/
lemma IsFactValue.isShort {value : String} (h : IsFactValue value) : IsShort value :=
  isShort_of_printable h.printable h.short

omit [UnicodeData] in
/-- The receipt of an execution stays below the limit of a receipt. -/
lemma size_executionReceipt_le {job : SealedJob} {result : HandlerResult}
    {facts : List (String × String)} {status rawReceiptDigest startedAt endedAt : String}
    (hjob : job.WellFormed) (hraw : isDigest rawReceiptDigest = true)
    (hstarted : isRealTimestamp startedAt = true) (hended : isRealTimestamp endedAt = true)
    (hfacts : Publishable facts) (hstatus : isSafeId status = true)
    (hresult : result.publicResult =
      .obj [("facts", .arr (factItems facts)), ("status", .str status)])
    (hexit : result.exitCode = 0 ∨ result.exitCode = 1) :
    Json.sizeWith Json.escapeChar Json.spaced
      (executionReceipt job result rawReceiptDigest startedAt endedAt) ≤ 300000 := by
  have htext : ∀ {s : String}, IsShort s →
      Json.sizeWith Json.escapeChar Json.spaced (.str s) ≤ 770 :=
    size_str_le Json.escapes_escapeChar
  have hcons : ∀ {name : String} {value : Json} {rest : List (String × Json)} {b c : Nat},
      (utf8 name.toList).length ≤ 64 → Json.sizeWith Json.escapeChar Json.spaced value ≤ b →
      Json.sizeWith Json.escapeChar Json.spaced (.obj rest) ≤ c →
      Json.sizeWith Json.escapeChar Json.spaced (.obj ((name, value) :: rest)) ≤ 390 + b + c :=
    Json.sizeWith_obj_cons_le Json.escapes_escapeChar Json.short_spaced
  have hnumber : Json.sizeWith Json.escapeChar Json.spaced (.int result.exitCode) ≤ 770 := by
    obtain hexit | hexit := hexit
    · rw [hexit]
      decide
    · rw [hexit]
      decide
  have hitem : ∀ n ∈ (factItems facts).map fun item =>
      2 + Json.sizeWith Json.escapeChar Json.spaced item, n ≤ 2400 := by
    rw [factItems, List.map_map, List.forall_mem_map]
    intro fact hfact
    have hobject : Json.sizeWith Json.escapeChar Json.spaced
        (.obj [("name", .str fact.1), ("value", .str fact.2)]) ≤ 390 + 770 + (390 + 770 + 2) :=
      hcons (by decide) (htext (isShort_of_isSafeId (hfacts.names fact hfact)))
        (hcons (by decide) (htext (hfacts.values fact hfact).isShort) Json.sizeWith_obj_nil_le)
    exact (Nat.add_le_add_left hobject 2).trans (by decide)
  have hfactsSize :
      Json.sizeWith Json.escapeChar Json.spaced (.arr (factItems facts)) ≤ 160000 := by
    refine (Json.sizeWith_arr_le Json.short_spaced _).trans ?_
    have hsum := List.sum_le_card_nsmul _ _ hitem
    have hfew := hfacts.few
    rw [List.length_map, factItems, List.length_map, smul_eq_mul] at hsum
    rw [factItems]
    omega
  refine le_trans (hcons (by decide) (htext (isShort_of_isRealTimestamp hended)) <|
    hcons (by decide) hnumber <|
    hcons (by decide) (htext (isShort_of_isDigest hjob.jobDigest)) <|
    hcons (by decide) (htext (isShort_of_isSafeId hjob.jobId)) <|
    hcons (by decide) (htext (by decide)) <|
    hcons (by decide) (htext (isShort_of_isSafeId hjob.operationId)) <|
    hcons (by decide) (htext (isShort_of_isDigest hraw)) <|
    hcons (b := 770) (by decide) (by decide) <|
    hcons (by decide) (htext (isShort_of_isSafeId hjob.replyTarget)) <|
    hcons (by decide) (htext (isShort_of_isSafeId hjob.requestId)) <|
    hcons (by decide) (hresult ▸ hcons (by decide) hfactsSize
      (hcons (by decide) (htext (isShort_of_isSafeId hstatus)) Json.sizeWith_obj_nil_le)) <|
    hcons (by decide) (htext (by decide)) <|
    hcons (by decide) (htext (isShort_of_isRealTimestamp hstarted)) <|
    hcons (by decide) (htext ?_) Json.sizeWith_obj_nil_le) ?_
  · obtain houtcome | houtcome := result.outcome_mem
    · rw [houtcome]
      decide
    · rw [houtcome]
      decide
  · norm_num

end receipts

/-! ## The facts of an observation -/

/-- The names of the facts are safe, different from each other and none of the reserved ones. -/
lemma names_publicFacts (observation : RuntimeObservation) :
    (∀ name ∈ observation.publicFacts.map Prod.fst, isSafeId name = true ∧
      name ≠ "terminal_outcome" ∧ name ≠ "terminal_status" ∧
        name ∉ executionObservationFactOrder) ∧
    (observation.publicFacts.map Prod.fst).Nodup := by
  have hnames : observation.publicFacts.map Prod.fst =
    (unresolvedObservation "" "").publicFacts.map Prod.fst := rfl
  rw [hnames]
  decide +kernel

lemma isFactValue_of_isSafeId {s : String} (h : isSafeId s = true) : IsFactValue s where
  ne_empty := by
    rintro rfl
    cases h
  printable := isSafeId_printable h
  short := (isSafeId_chars h).2

lemma isFactValue_of_isDigest {s : String} (h : isDigest s = true) : IsFactValue s := by
  obtain ⟨hprintable, hlength⟩ := isDigest_printable h
  refine ⟨?_, hprintable, by omega⟩
  rintro rfl
  cases hlength

/-- A number of the kernel is short. -/
lemma isFactValue_toString {n : Nat} (h : n ≤ 2 ^ 32) : IsFactValue (toString n) := by
  have hdigits : (toString n).toList = Nat.toDigits 10 n := by
    rw [Nat.toString_eq_ofList_toDigits, String.toList_ofList]
  have hlength : (Nat.toDigits 10 n).length ≤ 10 :=
    (Nat.length_toDigits_le_iff (by decide) (by decide)).mpr (by omega)
  refine ⟨fun hempty => ?_, ?_, ?_⟩
  · rw [hempty] at hdigits
    exact Nat.toDigits_ne_nil hdigits.symm
  · rw [hdigits, List.all_eq_true]
    intro c hc
    exact isPrintableAscii_of_isDigit (Nat.isDigit_of_mem_toDigits (by decide) (by decide) hc)
  · rw [hdigits]
    omega

lemma isFactValue_publicCount {n : Option Nat} (h : ∀ m ∈ n, m ≤ 2 ^ 32) :
    IsFactValue (RuntimeObservation.publicCount n) := by
  cases n with
  | none => exact isFactValue_of_isSafeId (by decide)
  | some m => exact isFactValue_toString (h m rfl)

/-- What an observation must be like for its facts to have short values. -/
structure Presentable (observation : RuntimeObservation) : Prop where
  slot : isSafeId observation.slot = true
  profile : IsFactValue observation.runtimeProfileDigest
  desired : IsFactValue observation.desiredDigest
  identity : IsFactValue observation.containerIdentityDigest
  reason : isSafeId observation.reasonCode = true
  requested : ∀ n ∈ observation.requestedPathCount, n ≤ 2 ^ 32
  effective : ∀ n ∈ observation.effectivePathCount, n ≤ 2 ^ 32
  probes : observation.probes.length ≤ 2 ^ 32

/-- The groups of a principal are no more than there are ids. -/
lemma ServicePrincipal.length_groups_le (principal : ServicePrincipal) :
    principal.groups.length ≤ 2 ^ 32 := by
  have hsubset : principal.groups ⊆ List.range (2 ^ 32) := fun group hgroup =>
    List.mem_range.mpr (principal.groups_lt group hgroup)
  exact (principal.groups_nodup.subperm hsubset).length_le.trans_eq List.length_range

/-- The values of the facts are short. -/
lemma values_publicFacts (h : Presentable observation) :
    ∀ fact ∈ observation.publicFacts, IsFactValue fact.2 := by
  have hcount : ∀ p, IsFactValue (toString (observation.count p)) := fun p =>
    isFactValue_toString (List.countP_le_length.trans h.probes)
  have hclass : ∀ failure, IsFactValue (toString (observation.classCount failure)) := fun _ =>
    hcount _
  have hprobe : ∀ outcome, IsFactValue (toString (observation.probeCount outcome)) := fun _ =>
    hcount _
  have hprincipal : ∀ (f : ServicePrincipal → Nat), (∀ principal, f principal ≤ 2 ^ 32) →
      IsFactValue (RuntimeObservation.publicCount (observation.principal.map f)) := by
    intro f hf
    refine isFactValue_publicCount fun n hn => ?_
    obtain ⟨principal, -, rfl⟩ := Option.map_eq_some_iff.mp hn
    exact hf principal
  have hsafe : ∀ {s : String}, isSafeId s = true → IsFactValue s := isFactValue_of_isSafeId
  unfold RuntimeObservation.publicFacts
  simp only [List.forall_mem_cons]
  refine ⟨⟨by decide, by decide, by decide⟩, ?_, hsafe h.slot, hsafe (by decide), h.profile,
    isFactValue_publicCount h.requested, isFactValue_publicCount h.effective, h.desired, h.identity,
    hsafe h.reason, isFactValue_toString h.probes, hcount _, hcount _, hcount _, hcount _, hcount _,
    hcount _, hcount _, hcount _, ?_, hclass _, hclass _, hclass _, hclass _, hclass _, hprobe _,
    hprobe _, hprobe _, hprobe _, ?_, hprincipal _ fun principal => principal.uid_lt.le,
    hprincipal _ fun principal => principal.gid_lt.le,
    hprincipal _ ServicePrincipal.length_groups_le, hcount _, hcount _, hsafe (by decide),
    List.forall_mem_nil _⟩
  · cases observation.status <;> exact hsafe (by decide)
  · cases observation.failureClass <;> exact ⟨by decide, by decide, by decide⟩
  · split <;> exact hsafe (by decide)

/-- The facts of a presentable observation can be published. -/
lemma publishable_publicFacts (h : Presentable observation) : Publishable observation.publicFacts := by
  obtain ⟨hnames, hnodup⟩ := names_publicFacts observation
  have hlength : observation.publicFacts.length = 36 := rfl
  exact {
    few := hlength.trans_le (by decide)
    names := fun fact hfact => (hnames fact.1 (List.mem_map_of_mem hfact)).1
    values := values_publicFacts h
    nodup := hnodup
    plain := fun name hname => (hnames name hname).2 }

/-- Every observation for a slot with a safe name is presentable. -/
lemma presentable_of_observed (hslot : isSafeId slot = true) (h : Observed slot observation) :
    Presentable observation := by
  cases h with
  | observed runtime principal hostTable containerTable results =>
      have hlength := length_probesOf runtime hostTable containerTable results.1 results.2
      refine ⟨isSafeId_of_isAccount runtime.account, isFactValue_of_isDigest runtime.profile,
        isFactValue_of_isDigest runtime.desired, isFactValue_of_isDigest runtime.identity, ?_, ?_,
        ?_, ?_⟩
      · change isSafeId (reportedClass _ _ _).reason = true
        cases reportedClass _ _ _ <;> decide +kernel
      · rintro _ ⟨⟩
        exact runtime.requested.2.trans (by decide)
      · rintro _ ⟨⟩
        exact runtime.effective.trans (by decide)
      · exact hlength.trans_le (runtime.effective.trans (by decide))
  | unresolved hreason =>
      have hunavailable : IsFactValue "unavailable" := isFactValue_of_isSafeId (by decide)
      have hreasons : ∀ reason ∈ reasonCodes, isSafeId reason = true := by decide +kernel
      exact ⟨hslot, hunavailable, hunavailable, hunavailable, hreasons _ hreason, nofun, nofun,
        Nat.zero_le _⟩

/-- The reason code of an observation is not empty. -/
lemma Observed.reason_ne (h : Observed slot observation) : observation.reasonCode ≠ "" := by
  cases h with
  | observed runtime principal hostTable containerTable results =>
      change (reportedClass _ _ _).reason ≠ ""
      cases reportedClass _ _ _ <;> decide
  | unresolved hreason =>
      rintro rfl
      revert hreason
      decide

end AgentRuntimeOps.Groupware
