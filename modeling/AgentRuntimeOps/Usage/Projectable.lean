import AgentRuntimeOps.Usage.CostStore
import AgentRuntimeOps.Usage.Estimate

/-!
# Calls whose cost cannot be projected

`project_call_cost` on a receipt, a catalogue and a rate ledger that were checked.  The checks bound
neither the counts nor the times: a day in Seoul after the last day of the calendar, an amount of
more than 28 digits and a number of more than 4300 digits end the projection with an exception, and
nothing else does.
-/

namespace AgentRuntimeOps.Usage

open AgentRuntimeOps.Lib

section projectable

variable [PythonText] [PythonCalendar]

/-! ## The digest of a projection -/

/-- A text, or nothing. -/
def IsText (value : Json) : Prop := value = .null ∨ ∃ s, value = .str s

omit [PythonCalendar] in
lemma IsText.finite {value : Json} (h : IsText value) : isFinite value = true := by
  obtain rfl | ⟨s, rfl⟩ := h
  · rfl
  · rfl

omit [PythonText] [PythonCalendar] in
lemma IsText.writable {value : Json} (h : IsText value) : isWritable value = true := by
  obtain rfl | ⟨s, rfl⟩ := h
  · rfl
  · rfl

omit [PythonText] [PythonCalendar] in
lemma isText_ofOption (text : Option String) : IsText (.ofOption text) := by
  cases text with
  | none => exact .inl rfl
  | some s => exact .inr ⟨s, rfl⟩

omit [PythonText] [PythonCalendar] in
lemma areWritable_iff {items : List Json} :
    areWritable items = true ↔ ∀ item ∈ items, isWritable item = true := by
  induction items with
  | nil => simp [areWritable]
  | cons item items ih => rw [areWritable, Bool.and_eq_true, List.forall_mem_cons, ih]

omit [PythonCalendar] in
lemma areFinite_iff {items : List Json} :
    areFinite items = true ↔ ∀ item ∈ items, isFinite item = true := by
  induction items with
  | nil => simp [areFinite]
  | cons item items ih => rw [areFinite, Bool.and_eq_true, List.forall_mem_cons, ih]

omit [PythonText] [PythonCalendar] in
lemma isWritable_row (row : CostComponent) :
    isWritable row.toJson = isWritable (.int row.quantity) := by
  simp [CostComponent.toJson, isWritable, areWritableFields]

omit [PythonCalendar] in
lemma isFinite_row (row : CostComponent) : isFinite row.toJson = true := by
  simp [CostComponent.toJson, isFinite, areFiniteFields]

omit [PythonText] [PythonCalendar] in
lemma areTexts (texts : List String) : ∀ item ∈ texts.map Json.str, IsText item := by
  intro item hitem
  obtain ⟨s, -, rfl⟩ := List.mem_map.mp hitem
  exact .inr ⟨s, rfl⟩

/-- A projection with texts in its fields. -/
structure Projection.Plain (p : Projection) : Prop where
  callId : IsText p.callId
  digest : IsText p.usageReceiptDigest
  entryId : IsText p.pricingEntryId
  usdPerEur : IsText p.usdPerEur
  krwPerEur : IsText p.krwPerEur

omit [PythonCalendar] in
lemma Projection.Plain.finite {p : Projection} (h : p.Plain) : isFinite p.payload = true := by
  have hrows : areFinite (p.components.map CostComponent.toJson) = true := by
    rw [areFinite_iff]
    intro item hitem
    obtain ⟨row, -, rfl⟩ := List.mem_map.mp hitem
    exact isFinite_row row
  have hmissing : areFinite (p.missing.map .str) = true :=
    areFinite_iff.mpr fun item hitem => (areTexts p.missing item hitem).finite
  simp only [Projection.payload, Projection.fields, List.cons_append, List.nil_append, isFinite,
    areFiniteFields, hrows, hmissing, h.callId.finite, h.digest.finite, h.entryId.finite,
    h.usdPerEur.finite, h.krwPerEur.finite, (isText_ofOption _).finite, Bool.and_self]

omit [PythonText] [PythonCalendar] in
/-- A projection can be written if the counts of its components can. -/
lemma Projection.Plain.writable {p : Projection} (h : p.Plain) :
    isWritable p.payload = true ↔
      ∀ row ∈ p.components, isWritable (.int row.quantity) = true := by
  have hrows : areWritable (p.components.map CostComponent.toJson) = true ↔
      ∀ row ∈ p.components, isWritable (.int row.quantity) = true := by
    rw [areWritable_iff, List.forall_mem_map]
    simp only [isWritable_row]
  have hmissing : areWritable (p.missing.map .str) = true :=
    areWritable_iff.mpr fun item hitem => (areTexts p.missing item hitem).writable
  rw [← hrows]
  simp only [Projection.payload, Projection.fields, List.cons_append, List.nil_append, isWritable,
    areWritableFields, hmissing, h.callId.writable, h.digest.writable, h.entryId.writable,
    h.usdPerEur.writable, h.krwPerEur.writable, (isText_ofOption _).writable, Bool.and_true,
    Bool.true_and]

omit [PythonCalendar] in
lemma sha256Digest_of {value : Json} (hfinite : isFinite value = true)
    (hwritable : isWritable value = true) : ∃ digest, sha256Digest value = .ok digest := by
  unfold sha256Digest canonicalJsonBytes
  exact ⟨_, except_bind_ok.mpr ⟨_, except_bind_ok.mpr ⟨(), check_ok.mpr hfinite,
    except_bind_ok.mpr ⟨(), check_ok.mpr hwritable, rfl⟩⟩, rfl⟩⟩

omit [PythonCalendar] in
/-- What a projection comes to with its digest. -/
lemma digested_iff {p : Projection} (h : p.Plain) :
    (∃ digest, costDigest p.payload = .ok digest) ↔
      ∀ row ∈ p.components, isWritable (.int row.quantity) = true := by
  rw [← h.writable]
  constructor
  · rintro ⟨digest, hdigest⟩
    exact (sha256Digest_ok hdigest).2
  · exact sha256Digest_of h.finite

/-! ## The condition -/

/-- The day of a time in Seoul. -/
def kstDay (micros : Int) : Int :=
  (micros + PythonCalendar.seoulOffset micros) / 86400000000 + 719162

/-- The day is one of the calendar, from `0001-01-01` to `9999-12-31`. -/
def InCalendar (day : Int) : Prop := 0 ≤ day ∧ day < IsoDate.dayCount

/-- **What a call must be for its cost to be projected.**  Where a price applies, the day of the
call in Seoul is in the calendar; and where there is a rate for that day too and no count is
missing, every amount fits in the digits that it is written with. -/
def Projectable (receipt : Json) (v : Valuation) : Prop :=
  ∀ entry startedAt, Selects receipt v entry →
    readTime (receipt.field "startedAt") = some startedAt →
      InCalendar (kstDay startedAt) ∧
        ∀ rate, RateOn v (kstDay startedAt).toNat rate → Counted receipt →
          Affordable receipt entry rate

omit [PythonText] in
lemma seoulDay_of_inCalendar {micros : Int} (h : InCalendar (kstDay micros)) :
    seoulDay micros = .ok (kstDay micros).toNat := if_pos h

omit [PythonText] in
lemma inCalendar_of_seoulDay {micros : Int} {day : Nat} (h : seoulDay micros = .ok day) :
    InCalendar (kstDay micros) ∧ day = (kstDay micros).toNat := by
  by_cases hin : InCalendar (kstDay micros)
  · rw [seoulDay_of_inCalendar hin] at h
    cases h
    exact ⟨hin, rfl⟩
  · have herror : seoulDay micros = .error (.other "OverflowError" "date value out of range") :=
      if_neg hin
    rw [herror] at h
    cases h

lemma Readable.plain_unavailable {receipt : Json} (h : Readable receipt)
    (v : Valuation) (reason : String) : (unavailable receipt v reason).Plain where
  callId := .inr h.callId
  digest := .inr h.digest
  entryId := .inl rfl
  usdPerEur := .inl rfl
  krwPerEur := .inl rfl

lemma Estimates.plain {receipt entry rate : Json} {v : Valuation} {p : Projection}
    {key : List String} {id date : String} (h : Estimates receipt v entry rate p)
    (hreceipt : Readable receipt) (hentry : Priced entry key id) (hrate : Listed rate date) :
    p.Plain where
  callId := h.callId ▸ .inr hreceipt.callId
  digest := h.receiptDigest ▸ .inr hreceipt.digest
  entryId := h.entryId ▸ .inr ⟨id, hentry.entryId⟩
  usdPerEur := h.usdPerEur ▸ .inr hrate.usdPerEur
  krwPerEur := h.krwPerEur ▸ .inr hrate.krwPerEur

/-- The counts of an estimate can be written if that of the output can. -/
lemma Estimates.writable {receipt entry rate : Json} {v : Valuation} {p : Projection}
    (h : Estimates receipt v entry rate p) (hreceipt : Readable receipt)
    (hcounted : Counted receipt) :
    (∀ row ∈ p.components, isWritable (.int row.quantity) = true) ↔
      outputTokens receipt < 10 ^ maxIntDigits := by
  obtain ⟨input, cache, output, hcomponents, hinput, hcache, houtput⟩ := h.components
  have hcount : ∀ field ∈ quantityFields, IsWritten ⌊tokens receipt field⌋₊ := by
    intro field hfield
    obtain ⟨n, hn, hwritten⟩ := (hreceipt.counts field hfield).resolve_left (hcounted field hfield)
    have htokens : tokens receipt field = n := by
      unfold tokens intField
      rw [hn]
      exact Int.cast_natCast n
    rw [htokens, Nat.floor_natCast]
    exact hwritten
  have houtputWritten : IsWritten ⌊outputTokens receipt⌋₊ ↔
      outputTokens receipt < 10 ^ maxIntDigits := by
    have hnonneg : 0 ≤ outputTokens receipt := Decimal.contextRound_nonneg _
    unfold IsWritten
    rw [Nat.floor_lt hnonneg]
    push_cast
    exact Iff.rfl
  rw [hcomponents]
  simp only [List.forall_mem_cons, List.not_mem_nil, false_imp_iff, implies_true, and_true,
    hinput.quantity, hcache.quantity, houtput.quantity, isWritable_natCast, houtputWritten]
  exact ⟨fun h => h.2.2, fun h => ⟨hcount _ (by decide), hcount _ (by decide), h⟩⟩

/-- **One call.**  The cost of a call whose receipt was accepted is projected if and only if the
call is projectable. -/
theorem projectCallCost_ok_iff {receipt : Json} {v : Valuation}
    (h : validateCallReceipt receipt = .ok ()) :
    (∃ result, projectCallCost receipt v = .ok result) ↔ Projectable receipt v := by
  have hreadable := readable_of_validate h
  have hdigest : (∃ result, projectCallCost receipt v = .ok result) ↔
      ∃ p, projectCall receipt v = .ok p ∧ ∃ digest, costDigest p.payload = .ok digest := by
    unfold projectCallCost
    constructor
    · rintro ⟨result, hresult⟩
      obtain ⟨p, hp, hresult⟩ := except_bind_ok.mp hresult
      obtain ⟨digest, hdigest, -⟩ := except_bind_ok.mp hresult
      exact ⟨p, hp, digest, hdigest⟩
    · rintro ⟨p, hp, digest, hdigest⟩
      exact ⟨(p, digest), except_bind_ok.mpr ⟨p, hp, except_bind_ok.mpr ⟨digest, hdigest, rfl⟩⟩⟩
  have hunavailable : ∀ {reason}, projectCall receipt v = .ok (unavailable receipt v reason) →
      ∃ p, projectCall receipt v = .ok p ∧ ∃ digest, costDigest p.payload = .ok digest := by
    intro reason hreason
    exact ⟨_, hreason, (digested_iff (hreadable.plain_unavailable v reason)).mpr nofun⟩
  rw [hdigest]
  obtain ⟨reason, -, hproject, hnone⟩ | ⟨entry, startedAt, hselects, htime, hcases⟩ :=
    projectCall_cases hreadable v
  · exact ⟨fun _ entry _ hselects => absurd hselects (hnone entry), fun _ => hunavailable hproject⟩
  -- the only price and the only time that the condition is about
  have honly : Projectable receipt v ↔ InCalendar (kstDay startedAt) ∧
      ∀ rate, RateOn v (kstDay startedAt).toNat rate → Counted receipt →
        Affordable receipt entry rate := by
    constructor
    · intro hprojectable
      exact hprojectable entry startedAt hselects htime
    · intro hcondition other time hother htime'
      rw [htime] at htime'
      cases htime'
      rw [hother.unique hselects]
      exact hcondition
  rw [honly]
  obtain ⟨e, hday, hproject⟩ | ⟨day, hday, hcases⟩ := hcases
  · rw [hproject]
    constructor
    · rintro ⟨p, hp, -⟩
      cases hp
    · rintro ⟨hin, -⟩
      rw [seoulDay_of_inCalendar hin] at hday
      cases hday
  obtain ⟨hin, rfl⟩ := inCalendar_of_seoulDay hday
  obtain ⟨reason, -, hproject, hnone⟩ | ⟨rate, hrate, hcounted, hproject⟩ := hcases
  · exact ⟨fun _ => ⟨hin, fun rate hrate hcounted => absurd hcounted (hnone rate hrate)⟩,
      fun _ => hunavailable hproject⟩
  obtain ⟨-, checked, hchecked, -⟩ := v.catalog.checked
  obtain ⟨row, -, hpriced⟩ := exists_right_of_forall₂ hchecked hselects.1
  obtain ⟨-, days, hdays, -⟩ := v.fx.checked
  obtain ⟨date, -, hlisted⟩ := exists_right_of_forall₂ hdays hrate.1
  have hsame : (∀ rate', RateOn v (kstDay startedAt).toNat rate' → Counted receipt →
      Affordable receipt entry rate') ↔ Affordable receipt entry rate := by
    constructor
    · intro haffordable
      exact haffordable rate hrate hcounted
    · intro haffordable rate' hrate' _
      rw [hrate'.unique hrate]
      exact haffordable
  rw [hproject, hsame]
  obtain ⟨⟨e, he⟩, hnot⟩ | ⟨haffordable, p, hp, hestimates⟩ :=
    estimate_spec (v := v) hreadable hcounted hpriced hlisted
  · rw [he]
    constructor
    · rintro ⟨p, hp, -⟩
      cases hp
    · rintro ⟨-, haffordable⟩
      exact absurd haffordable hnot
  · rw [hp]
    have hwritten := (digested_iff (hestimates.plain hreadable hpriced hlisted)).trans
      (hestimates.writable hreadable hcounted)
    constructor
    · rintro ⟨p', hp', hdigest'⟩
      cases hp'
      exact ⟨hin, haffordable (hwritten.mp hdigest')⟩
    · rintro ⟨-, haffordable⟩
      exact ⟨p, rfl, hwritten.mpr haffordable.tokens⟩

end projectable

/-! ## A call and its price -/

section samples

attribute [local instance] sampleText sampleCalendar

/-- A catalogue with one price. -/
def pricedCatalog : PricingCatalog where
  payload := .obj [("entries", .arr [.obj [("actualModel", .str "m"), ("apiProduct", .str "a"),
      ("currency", .str "USD"), ("effectiveFrom", .str "2026-07-01T00:00:00Z"),
      ("effectiveUntil", .null), ("entryId", .str "e"),
      ("meteringProfile", .str "gemini-generate-content-v1"), ("priceScenario", .str "s"),
      ("provider", .str "p"),
      ("ratesPerMillion", .obj [("cacheRead", .str "0.1"), ("inputNonCached", .str "1"),
        ("outputIncludingThinking", .str "4")]),
      ("serviceTier", .str "t"),
      ("source", .obj [("checkedAt", .str "2026-07-01T00:00:00Z"), ("checkedBy", .str "c"),
        ("url", .str "u")]),
      ("unpricedComponents", .arr [])]]),
    ("publishedAt", .str "2026-07-01T00:00:00Z"), ("revision", .str "1"),
    ("schema", .str "jitech-provider-pricing-catalog/v1")]
  digest := "sha256:3d20056311682643ae2c4fb259467981b0c0f48b8079f28e51b68846f3a77143"
  valid := by decide +kernel

/-- A ledger with one rate. -/
def pricedFx : DailyReferenceFxLedger where
  payload := .obj [("baseCurrency", .str "USD"), ("maxCarryDays", .int 7),
    ("publishedAt", .str "2026-07-01T00:00:00Z"), ("quoteCurrency", .str "KRW"),
    ("rates", .arr [.obj [("krwPerEur", .str "1300"), ("krwPerUsd", .str "1300"),
      ("rateDate", .str "2026-07-01"),
      ("source", .obj [("derivation", .str "KRW_per_EUR / USD_per_EUR"),
        ("documentSha256", .str "sha256:"), ("retrievedAt", .str "2026-07-01T00:00:00Z"),
        ("url", .str "u")]),
      ("usdPerEur", .str "1")]]),
    ("revision", .str "1"), ("schema", .str "jitech-daily-reference-fx/v1")]
  digest := "sha256:2af34c4f2ff32028f7cb02f394d864f475f154e351b9c71d29b33cd94274826c"
  valid := by decide +kernel

/-- The price and the rate. -/
def pricedValuation : Valuation := ⟨pricedCatalog, pricedFx, "a", "s"⟩

/-- A call of so many input tokens. -/
def pricedReceipt (count : Int) (digest : String) : Json :=
  .obj [("actual", .obj [("evidenceSource", .null), ("model", .str "m"), ("provider", .str "p"),
      ("responseId", .null)]),
    ("attempt", .int 1), ("callId", .str "call-1"), ("completedAt", .str "2026-07-01T00:00:00Z"),
    ("configured", .obj [("model", .str "m"), ("provider", .str "p")]),
    ("errorCategory", .str "e"), ("fallbackIndex", .int 0), ("fallbackParent", .null),
    ("finishReason", .null), ("ledgerSeq", .int 1), ("missingReceiptFields", .arr []),
    ("missingUsageFields", .arr []), ("producerCoverageDigest", .str sampleManifestDigest),
    ("receiptCoverage", .str "complete"), ("receiptDigest", .str digest), ("requestId", .str "q"),
    ("requested", .obj [("model", .str "m"), ("provider", .str "p")]), ("retryOf", .null),
    ("runId", .str "r"), ("schema", .str "jitech-provider-usage-call/v1"),
    ("sessionId", .str "s"), ("startedAt", .str "2026-07-01T00:00:00Z"),
    ("status", .str "failed"), ("trigger", .str "user"), ("turnId", .str "t"),
    ("usage", .obj [("cacheRead", .int 0), ("cacheWrite", .int 0), ("inputNonCached", .int count),
      ("inputTotal", .int count), ("outputCandidates", .int 0),
      ("providerReportedTotal", .int count), ("rawProviderUsage", .obj []),
      ("reasoningThinking", .int 0), ("serviceTier", .str "t"), ("toolUsePrompt", .int 0)]),
    ("usageCoverage", .str "complete")]

/-- A call of twelve tokens. -/
def smallReceipt : Json :=
  pricedReceipt 12 "sha256:21e66c85420bcbc83cee485c32594ec34409ff3e3520da17e00f54fc1a8713bf"

/-- A call of so many tokens that their price has no place for its digits. -/
def largeReceipt : Json :=
  pricedReceipt (10 ^ 30) "sha256:f8713101777547f866007fb478bdc4d2fabff308d1f3b52d4a0e52be5276b1d7"

lemma validateCallReceipt_smallReceipt : validateCallReceipt smallReceipt = .ok () := by
  decide +kernel

theorem smallReceipt_projectable : Projectable smallReceipt pricedValuation := by
  refine (projectCallCost_ok_iff validateCallReceipt_smallReceipt).mp ?_
  have hok : (projectCallCost smallReceipt pricedValuation).isOk = true := by decide +kernel
  rcases hresult : projectCallCost smallReceipt pricedValuation with e | result
  · rw [hresult] at hok
    cases hok
  · exact ⟨result, rfl⟩

/-- An accepted receipt ends the projection with an exception. -/
theorem largeReceipt_raises :
    validateCallReceipt largeReceipt = .ok () ∧
      ¬ ∃ result, projectCallCost largeReceipt pricedValuation = .ok result := by
  refine ⟨by decide +kernel, ?_⟩
  rintro ⟨result, hresult⟩
  have hok : (projectCallCost largeReceipt pricedValuation).isOk = false := by decide +kernel
  rw [hresult] at hok
  cases hok

end samples

end AgentRuntimeOps.Usage
