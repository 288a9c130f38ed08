import AgentRuntimeOps.Usage.Projectable

/-!
# Exact amounts

An estimate whose steps need no more digits than the context keeps says the exact amounts, rounded
once to their places.  A step can still lose a digit where a rate is tiny; then every number of the
estimate is tiny, and rounded to zero in the exact and in the computed estimate.
-/

namespace AgentRuntimeOps.Usage

open AgentRuntimeOps.Lib
open Decimal (contextRound halfUp HasDigits Near subnormalBound)

section exact

variable [PythonText] [PythonCalendar]

/-! ## The exact amounts -/

/-- The exact cost of so many tokens. -/
def exactCost (tokens rate : ℚ) : ℚ := tokens * rate / 10 ^ 6

/-- The exact number of output tokens. -/
def exactOutput (receipt : Json) : ℚ :=
  tokens receipt "outputCandidates" + tokens receipt "reasoningThinking"

/-- The exact cost of the input. -/
def exactInputCost (receipt entry : Json) : ℚ :=
  exactCost (tokens receipt "inputNonCached") (rateOf entry "inputNonCached")

/-- The exact cost of what the cache was read for. -/
def exactCacheCost (receipt entry : Json) : ℚ :=
  exactCost (tokens receipt "cacheRead") (rateOf entry "cacheRead")

/-- The exact cost of the output. -/
def exactOutputCost (receipt entry : Json) : ℚ :=
  exactCost (exactOutput receipt) (rateOf entry "outputIncludingThinking")

/-- The exact cost of the call. -/
def exactUsd (receipt entry : Json) : ℚ :=
  exactInputCost receipt entry + exactCacheCost receipt entry + exactOutputCost receipt entry

/-- No step of the estimate needs more digits than the context keeps. -/
structure FewDigits (receipt entry rate : Json) : Prop where
  output : HasDigits (exactOutput receipt)
  inputProduct : HasDigits (tokens receipt "inputNonCached" * rateOf entry "inputNonCached")
  cacheProduct : HasDigits (tokens receipt "cacheRead" * rateOf entry "cacheRead")
  outputProduct : HasDigits (exactOutput receipt * rateOf entry "outputIncludingThinking")
  start : HasDigits (exactInputCost receipt entry + exactCacheCost receipt entry)
  sum : HasDigits (exactUsd receipt entry)
  converted : HasDigits (fixed 12 (exactUsd receipt entry) * krwOf rate)

/-! ## The computed amounts -/

omit [PythonText] [PythonCalendar] in
lemma near_componentCost {tokens rate : ℚ} (h : HasDigits (tokens * rate)) :
    Near subnormalBound (exactCost tokens rate) (componentCost tokens rate) := by
  unfold exactCost componentCost
  rcases Decimal.near_contextRound h with heq | ⟨hpos, hx, hy⟩
  · rw [heq]
    exact Decimal.near_contextRound h.div_million
  · right
    have hpositive := Decimal.subnormalBound_pos
    have hnonneg := Decimal.contextRound_nonneg (tokens * rate)
    have hround := Decimal.contextRound_le_two_mul
      (div_nonneg hnonneg (show (0 : ℚ) ≤ 10 ^ 6 by norm_num))
    refine ⟨by positivity, ?_, ?_⟩
    · rw [div_lt_iff₀ (by norm_num)]
      linarith
    · refine hround.trans_lt ?_
      rw [← mul_div_assoc, div_lt_iff₀ (by norm_num)]
      linarith

omit [PythonCalendar] in
lemma outputTokens_exact {receipt : Json} (h : Readable receipt)
    (hcounted : Counted receipt) (hdigits : HasDigits (exactOutput receipt)) :
    outputTokens receipt = exactOutput receipt := by
  have hcount : ∀ field ∈ quantityFields, ∃ n : ℕ, tokens receipt field = n := by
    intro field hfield
    obtain ⟨n, hn, -⟩ := (h.counts field hfield).resolve_left (hcounted field hfield)
    refine ⟨n, ?_⟩
    unfold tokens intField
    rw [hn]
    exact Int.cast_natCast n
  obtain ⟨m, hm⟩ := hcount "outputCandidates" (by decide)
  obtain ⟨n, hn⟩ := hcount "reasoningThinking" (by decide)
  have hsum : exactOutput receipt = ((m + n : ℕ) : ℚ) := by
    unfold exactOutput
    rw [hm, hn]
    push_cast
    rfl
  show contextRound (exactOutput receipt) = exactOutput receipt
  rw [hsum] at hdigits ⊢
  exact Decimal.contextRound_natCast hdigits

/-- How far the computed sum can be from the exact one. -/
def sumBound : ℚ := 10 ^ 30 * (10 ^ 30 * (10 ^ 30 * subnormalBound))

omit [PythonText] [PythonCalendar] in
lemma sumBound_small {p : ℕ} (hp : p ≤ 12) : sumBound * 10 ^ p ≤ 1 / 2 := by
  have hpow : (10 : ℚ) ^ (-999998 : ℤ) ≤ 10 ^ (-200 : ℤ) :=
    zpow_le_zpow_right₀ (by norm_num) (by norm_num)
  have hplaces : (10 : ℚ) ^ p ≤ 10 ^ 12 := pow_le_pow_right₀ (by norm_num) hp
  have hbound : sumBound ≤ 10 ^ 30 * (10 ^ 30 * (10 ^ 30 * (2 * 10 ^ (-200 : ℤ)))) := by
    unfold sumBound subnormalBound
    gcongr
  calc sumBound * 10 ^ p
      ≤ 10 ^ 30 * (10 ^ 30 * (10 ^ 30 * (2 * 10 ^ (-200 : ℤ)))) * 10 ^ 12 := by
        refine mul_le_mul hbound hplaces (by positivity) (by positivity)
    _ ≤ 1 / 2 := by norm_num

omit [PythonText] [PythonCalendar] in
lemma subnormalBound_small {p : ℕ} (hp : p ≤ 12) : subnormalBound * 10 ^ p ≤ 1 / 2 := by
  refine le_trans (mul_le_mul_of_nonneg_right ?_ (by positivity)) (sumBound_small hp)
  have hpos := Decimal.subnormalBound_pos
  unfold sumBound
  linarith

/-- The sum of the loop is near to the exact cost of the call. -/
lemma near_usdOf {receipt entry rate : Json} (h : FewDigits receipt entry rate)
    (houtput : outputTokens receipt = exactOutput receipt) :
    Near sumBound (exactUsd receipt entry) (usdOf receipt entry) := by
  have hpos := Decimal.subnormalBound_pos
  have hinput := near_componentCost h.inputProduct
  have hcache := near_componentCost h.cacheProduct
  have houtputCost := near_componentCost h.outputProduct
  have hinputDigits : HasDigits (exactInputCost receipt entry) := h.inputProduct.div_million
  have hcacheDigits : HasDigits (exactCacheCost receipt entry) := h.cacheProduct.div_million
  have houtputDigits : HasDigits (exactOutputCost receipt entry) := h.outputProduct.div_million
  have husd : usdOf receipt entry = contextRound (contextRound (contextRound
      (0 + componentCost (tokens receipt "inputNonCached") (rateOf entry "inputNonCached")) +
        componentCost (tokens receipt "cacheRead") (rateOf entry "cacheRead")) +
          componentCost (exactOutput receipt) (rateOf entry "outputIncludingThinking")) := by
    unfold usdOf sumCosts callCosts
    rw [houtput]
    rfl
  rw [husd]
  -- the sum grows by one component at a time, and the bound with it
  have hfirst : Near (10 ^ 30 * subnormalBound) (0 + exactInputCost receipt entry) _ :=
    Decimal.near_add (.inl rfl) hinput Decimal.hasDigits_zero hinputDigits
      (by rwa [zero_add]) le_rfl (componentCost_nonneg _ _) le_rfl
  rw [zero_add] at hfirst
  have hsecond := Decimal.near_add hfirst (hcache.mono (by linarith)) hinputDigits hcacheDigits
    h.start (Decimal.contextRound_nonneg _) (componentCost_nonneg _ _) (by linarith)
  exact Decimal.near_add hsecond (houtputCost.mono (by linarith)) h.start houtputDigits h.sum
    (Decimal.contextRound_nonneg _) (componentCost_nonneg _ _) (by linarith)

omit [PythonText] [PythonCalendar] in
lemma Shows.congr {places : Nat} {text : String} {x y : ℚ} (h : Shows places text x)
    (heq : halfUp (x * 10 ^ places) = halfUp (y * 10 ^ places)) : Shows places text y := by
  unfold Shows at h ⊢
  rwa [heq] at h

omit [PythonText] [PythonCalendar] in
lemma abs_fixed_sub {x : ℚ} (h : 0 ≤ x) : |fixed 12 x - x| ≤ 1 / (2 * 10 ^ 12) := by
  have hpos : (0 : ℚ) < 10 ^ 12 := by positivity
  have habs := Decimal.abs_halfUp_sub (x * 10 ^ 12) (by positivity)
  have heq : fixed 12 x - x = (halfUp (x * 10 ^ 12) - x * 10 ^ 12) / 10 ^ 12 := by
    unfold fixed
    rw [sub_div, mul_div_cancel_right₀ _ hpos.ne']
  rw [heq, abs_div, abs_of_pos hpos, div_le_iff₀ hpos]
  refine habs.trans (le_of_eq ?_)
  norm_num

/-- The amounts of a projection are the exact ones. -/
structure ExactAmounts (receipt entry rate : Json) (p : Projection) : Prop where
  usd : ∃ text, p.amountUsd = some text ∧ Shows 12 text (exactUsd receipt entry)
  krw : ∃ text, p.amountKrw = some text ∧
    Shows 4 text (fixed 12 (exactUsd receipt entry) * krwOf rate)
  components : ∃ input cache output, p.components = [input, cache, output] ∧
    Shows 12 input.amount (exactInputCost receipt entry) ∧
    Shows 12 cache.amount (exactCacheCost receipt entry) ∧
    Shows 12 output.amount (exactOutputCost receipt entry)
  difference : |fixed 12 (exactInputCost receipt entry) + fixed 12 (exactCacheCost receipt entry) +
    fixed 12 (exactOutputCost receipt entry) - fixed 12 (exactUsd receipt entry)| ≤ 2 / 10 ^ 12

lemma exactAmounts_of_estimates {receipt entry rate : Json} {v : Valuation} {p : Projection}
    (hreceipt : Readable receipt) (hcounted : Counted receipt)
    (h : Estimates receipt v entry rate p) (hfew : FewDigits receipt entry rate) :
    ExactAmounts receipt entry rate p := by
  have houtput := outputTokens_exact hreceipt hcounted hfew.output
  have husd := Decimal.halfUp_of_near (near_usdOf hfew houtput) (sumBound_small le_rfl)
  have hfixed : fixed 12 (usdOf receipt entry) = fixed 12 (exactUsd receipt entry) := by
    unfold fixed
    rw [husd]
  have hcomponent : ∀ {tokens rate : ℚ}, HasDigits (tokens * rate) →
      halfUp (componentCost tokens rate * 10 ^ 12) = halfUp (exactCost tokens rate * 10 ^ 12) :=
    fun hdigits =>
      Decimal.halfUp_of_near (near_componentCost hdigits) (subnormalBound_small le_rfl)
  obtain ⟨text, htext, hshows⟩ := h.usd
  obtain ⟨converted, hconverted, hshowsConverted⟩ := h.krw
  obtain ⟨input, cache, output, hcomponents, hinput, hcache, hrow⟩ := h.components
  rw [houtput] at hrow
  have hinputNonneg : 0 ≤ exactInputCost receipt entry := hfew.inputProduct.div_million.nonneg
  have hcacheNonneg : 0 ≤ exactCacheCost receipt entry := hfew.cacheProduct.div_million.nonneg
  have houtputNonneg : 0 ≤ exactOutputCost receipt entry := hfew.outputProduct.div_million.nonneg
  refine ⟨⟨text, htext, hshows.congr husd⟩, ⟨converted, hconverted, hshowsConverted.congr ?_⟩,
    ⟨input, cache, output, hcomponents, hinput.amount.congr (hcomponent hfew.inputProduct),
      hcache.amount.congr (hcomponent hfew.cacheProduct),
      hrow.amount.congr (hcomponent hfew.outputProduct)⟩, ?_⟩
  · unfold convertedOf
    rw [hfixed]
    exact Decimal.halfUp_of_near (Decimal.near_contextRound hfew.converted)
      (subnormalBound_small (by norm_num))
  · have h₁ := abs_le.mp (abs_fixed_sub hinputNonneg)
    have h₂ := abs_le.mp (abs_fixed_sub hcacheNonneg)
    have h₃ := abs_le.mp (abs_fixed_sub houtputNonneg)
    have h₄ := abs_le.mp (abs_fixed_sub hfew.sum.nonneg)
    have hexact : exactUsd receipt entry = exactInputCost receipt entry +
        exactCacheCost receipt entry + exactOutputCost receipt entry := rfl
    rw [abs_le]
    norm_num at h₁ h₂ h₃ h₄ ⊢
    constructor
    · linarith
    · linarith

/-- **The cost of a call.**  A projection is never unavailable for two prices.  An estimate is by the
only price for the five names of the call that is valid when it starts, and by the rate of the last
day on or before its day in Seoul that is not too old.  Unless a step needs more than 28 digits, the
amounts are the exact ones, each rounded once, and those of the components differ from the sum by
2e-12 at most. -/
theorem projected_cost_exact {receipt : Json} {v : Valuation} {p : Projection} {digest : String}
    (h : validateCallReceipt receipt = .ok ())
    (hproject : projectCallCost receipt v = .ok (p, digest)) :
    p ≠ unavailable receipt v "pricing_entry_ambiguous" ∧
      (p.status ≠ .unavailable → ∃ entry startedAt rate,
        (Selects receipt v entry ∧ ∀ other, Selects receipt v other → other = entry) ∧
        readTime (receipt.field "startedAt") = some startedAt ∧ InCalendar (kstDay startedAt) ∧
        RateOn v (kstDay startedAt).toNat rate ∧ Estimates receipt v entry rate p ∧
        (FewDigits receipt entry rate → ExactAmounts receipt entry rate p)) := by
  have hreadable := readable_of_validate h
  have hcall : projectCall receipt v = .ok p := by
    unfold projectCallCost at hproject
    obtain ⟨p', hp, hproject⟩ := except_bind_ok.mp hproject
    obtain ⟨digest', -, hproject⟩ := except_bind_ok.mp hproject
    cases hproject
    exact hp
  have hunavailable : ∀ {reason}, reason ≠ "pricing_entry_ambiguous" →
      projectCall receipt v = .ok (unavailable receipt v reason) →
      p ≠ unavailable receipt v "pricing_entry_ambiguous" ∧ ¬ p.status ≠ .unavailable := by
    intro reason hreason hproject
    rw [hcall] at hproject
    cases hproject
    refine ⟨fun heq => hreason ?_, fun hstatus => hstatus rfl⟩
    have hmissing := congrArg Projection.missing heq
    exact (List.cons.inj hmissing).1
  obtain ⟨reason, hreason, hnone, -⟩ | ⟨entry, startedAt, hselects, htime, hcases⟩ :=
    projectCall_cases hreadable v
  · obtain ⟨hne, hstatus⟩ := hunavailable hreason hnone
    exact ⟨hne, fun hother => absurd hother hstatus⟩
  obtain ⟨e, -, herror⟩ | ⟨day, hday, hcases⟩ := hcases
  · rw [hcall] at herror
    cases herror
  obtain ⟨hin, rfl⟩ := inCalendar_of_seoulDay hday
  obtain ⟨reason, hreason, hnone, -⟩ | ⟨rate, hrate, hcounted, hestimate⟩ := hcases
  · obtain ⟨hne, hstatus⟩ := hunavailable hreason hnone
    exact ⟨hne, fun hother => absurd hother hstatus⟩
  obtain ⟨-, checked, hchecked, -⟩ := v.catalog.checked
  obtain ⟨row, -, hpriced⟩ := exists_right_of_forall₂ hchecked hselects.1
  obtain ⟨-, days, hdays, -⟩ := v.fx.checked
  obtain ⟨date, -, hlisted⟩ := exists_right_of_forall₂ hdays hrate.1
  rw [hcall] at hestimate
  obtain ⟨⟨e, he⟩, -⟩ | ⟨-, p', hp', hestimates⟩ :=
    estimate_spec (v := v) hreadable hcounted hpriced hlisted
  · rw [he] at hestimate
    cases hestimate
  · rw [hp'] at hestimate
    cases hestimate
    refine ⟨fun heq => hestimates.status (by rw [heq]; rfl), fun _ => ⟨entry, startedAt, rate,
      ⟨hselects, fun other hother => hother.unique hselects⟩, htime, hin, hrate, hestimates,
      exactAmounts_of_estimates hreadable hcounted hestimates⟩⟩

end exact

/-! ## A call -/

section samples

attribute [local instance] sampleText sampleCalendar

lemma tokens_smallReceipt : tokens smallReceipt "inputNonCached" = 12 ∧
    tokens smallReceipt "cacheRead" = 0 ∧ exactOutput smallReceipt = 0 := by
  have hinput : intField (smallReceipt.field "usage") "inputNonCached" = 12 := by decide +kernel
  have hcache : intField (smallReceipt.field "usage") "cacheRead" = 0 := by decide +kernel
  have hcandidates : intField (smallReceipt.field "usage") "outputCandidates" = 0 := by
    decide +kernel
  have hthinking : intField (smallReceipt.field "usage") "reasoningThinking" = 0 := by
    decide +kernel
  unfold exactOutput tokens
  rw [hinput, hcache, hcandidates, hthinking]
  norm_num

lemma rates_of_priced {entry rate : Json} (hentry : entry ∈ pricedCatalog.entries)
    (hrate : rate ∈ pricedFx.rates) : rateOf entry "inputNonCached" = 1 ∧ krwOf rate = 1300 := by
  have hentries : pricedCatalog.entries.map (fun entry =>
      readDecimal ((entry.field "ratesPerMillion").field "inputNonCached") false) =
        [some (.finite false 1 0)] := by decide +kernel
  have hrates : pricedFx.rates.map (fun rate => readDecimal (rate.field "krwPerUsd") true) =
      [some (.finite false 1300 0)] := by decide +kernel
  have hin := List.mem_map_of_mem (f := fun entry =>
    readDecimal ((entry.field "ratesPerMillion").field "inputNonCached") false) hentry
  have hin' := List.mem_map_of_mem
    (f := fun rate => readDecimal (rate.field "krwPerUsd") true) hrate
  rw [hentries, List.mem_singleton] at hin
  rw [hrates, List.mem_singleton] at hin'
  unfold rateOf krwOf
  rw [hin, hin']
  constructor
  · show ((1 : ℕ) : ℚ) * 10 ^ (0 : ℤ) = 1
    norm_num
  · show ((1300 : ℕ) : ℚ) * 10 ^ (0 : ℤ) = 1300
    norm_num

lemma exact_smallReceipt {entry : Json} (hentry : rateOf entry "inputNonCached" = 1) :
    exactInputCost smallReceipt entry = 12 / 10 ^ 6 ∧ exactCacheCost smallReceipt entry = 0 ∧
      exactUsd smallReceipt entry = 12 / 10 ^ 6 := by
  obtain ⟨hinput, hcache, houtput⟩ := tokens_smallReceipt
  have hfirst : exactInputCost smallReceipt entry = 12 / 10 ^ 6 := by
    unfold exactInputCost exactCost
    rw [hinput, hentry, mul_one]
  have hsecond : exactCacheCost smallReceipt entry = 0 := by
    unfold exactCacheCost exactCost
    rw [hcache, zero_mul, zero_div]
  have hthird : exactOutputCost smallReceipt entry = 0 := by
    unfold exactOutputCost exactCost
    rw [houtput, zero_mul, zero_div]
  refine ⟨hfirst, hsecond, ?_⟩
  unfold exactUsd
  rw [hfirst, hsecond, hthird, add_zero, add_zero]

lemma fewDigits_smallReceipt {entry rate : Json} (hentry : entry ∈ pricedCatalog.entries)
    (hrate : rate ∈ pricedFx.rates) : FewDigits smallReceipt entry rate := by
  obtain ⟨hinputRate, hkrw⟩ := rates_of_priced hentry hrate
  obtain ⟨hinput, hcache, houtput⟩ := tokens_smallReceipt
  obtain ⟨hfirst, hsecond, husd⟩ := exact_smallReceipt hinputRate
  have hfixed : fixed 12 (12 / 10 ^ 6) = 12 / 10 ^ 6 := by
    unfold fixed
    rw [show (12 : ℚ) / 10 ^ 6 * 10 ^ 12 = ((12000000 : ℕ) : ℚ) by norm_num,
      Decimal.halfUp_natCast]
    norm_num
  refine ⟨?_, ?_, ?_, ?_, ?_, ?_, ?_⟩
  · rw [houtput]
    exact Decimal.hasDigits_zero
  · rw [hinput, hinputRate]
    exact ⟨12, 0, by decide, by norm_num⟩
  · rw [hcache, zero_mul]
    exact Decimal.hasDigits_zero
  · rw [houtput, zero_mul]
    exact Decimal.hasDigits_zero
  · rw [hfirst, hsecond, add_zero]
    exact ⟨12, -6, by decide, by norm_num⟩
  · rw [husd]
    exact ⟨12, -6, by decide, by norm_num⟩
  · rw [husd, hfixed, hkrw]
    exact ⟨15600, -6, by decide, by norm_num⟩

theorem smallReceipt_exact : ∃ p digest entry rate,
    projectCallCost smallReceipt pricedValuation = .ok (p, digest) ∧
      exactUsd smallReceipt entry = 12 / 10 ^ 6 ∧ ExactAmounts smallReceipt entry rate p := by
  have hok : (projectCallCost smallReceipt pricedValuation).toOption.any
      (·.1.status = .complete) = true := by decide +kernel
  rcases hresult : projectCallCost smallReceipt pricedValuation with e | ⟨p, digest⟩
  · rw [hresult] at hok
    cases hok
  · rw [hresult] at hok
    have hstatus : p.status = .complete := of_decide_eq_true hok
    obtain ⟨-, hestimate⟩ := projected_cost_exact validateCallReceipt_smallReceipt hresult
    obtain ⟨entry, _, rate, ⟨hselects, -⟩, -, -, hrate, -, hexact⟩ :=
      hestimate (by rw [hstatus]; nofun)
    exact ⟨p, digest, entry, rate, rfl,
      (exact_smallReceipt (rates_of_priced hselects.1 hrate.1).1).2.2,
      hexact (fewDigits_smallReceipt hselects.1 hrate.1)⟩

end samples

end AgentRuntimeOps.Usage
