import AgentRuntimeOps.Usage.Selection

/-!
# The amounts of an estimate

`estimate` on rational numbers: what a component and the sum of the components are after each
rounding to 28 digits, and which of these numbers are too large for the places that they are
rounded to.  That is all that can go wrong in an estimate.
-/

namespace AgentRuntimeOps.Usage

open AgentRuntimeOps.Lib
open Decimal (contextRound halfUp)

/-! ## Amounts -/

/-- The amount can be written with this number of places. -/
def Fits (places : Nat) (x : ℚ) : Prop := halfUp (x * 10 ^ places) < 10 ^ Decimal.precision

/-- What so many tokens cost at a rate for a million of them. -/
def componentCost (tokens rate : ℚ) : ℚ := contextRound (contextRound (tokens * rate) / 10 ^ 6)

/-- The sum of the components, from the first on. -/
def sumCosts (costs : List ℚ) : ℚ := costs.foldl (fun sum cost => contextRound (sum + cost)) 0

/-- A number as a decimal with this number of places. -/
def fixed (places : Nat) (x : ℚ) : ℚ := halfUp (x * 10 ^ places) / 10 ^ places

lemma componentCost_nonneg (tokens rate : ℚ) : 0 ≤ componentCost tokens rate :=
  Decimal.contextRound_nonneg _

/-- A large amount has no place. -/
lemma not_fits_of_large {x : ℚ} (h : (10 : ℚ) ^ (28 : ℤ) ≤ x) (places : Nat) : ¬ Fits places x := by
  have hnat : halfUp ((10 : ℚ) ^ (28 : ℤ)) = 10 ^ Decimal.precision := by
    rw [← Decimal.halfUp_natCast (10 ^ Decimal.precision)]
    congr 1
  have hone : (1 : ℚ) ≤ 10 ^ places := one_le_pow₀ (by norm_num)
  have hle : (10 : ℚ) ^ (28 : ℤ) ≤ x * 10 ^ places :=
    h.trans (le_mul_of_one_le_right ((by positivity : (0 : ℚ) ≤ 10 ^ (28 : ℤ)).trans h) hone)
  have hmono := Decimal.halfUp_mono hle
  rw [hnat] at hmono
  exact not_lt.mpr hmono

/-- Rounding to the context keeps a large number large. -/
lemma large_contextRound {x : ℚ} (h : (10 : ℚ) ^ (28 : ℤ) ≤ x) :
    (10 : ℚ) ^ (28 : ℤ) ≤ contextRound x :=
  Decimal.le_contextRound (by decide) h

lemma large_of_overflow {x : ℚ} (h : (10 : ℚ) ^ (1000000 : ℤ) ≤ x) : (10 : ℚ) ^ (28 : ℤ) ≤ x :=
  (zpow_le_zpow_right₀ (by norm_num) (by norm_num)).trans h

/-! ## One component -/

/-- The text of a number with this number of places, rounded half up; a zero can have a sign. -/
def Shows (places : Nat) (text : String) (x : ℚ) : Prop :=
  ∃ s, text = (Decimal.finite s (halfUp (x * 10 ^ places)) (-(places : ℤ))).format ∧
    (s = true → halfUp (x * 10 ^ places) = 0)

/-- A row of the components is for these tokens at this cost. -/
structure RowOf (kind : String) (tokens : ℚ) (cost : ℚ) (row : CostComponent) : Prop where
  kind : row.kind = kind
  quantity : row.quantity = ⌊tokens⌋₊
  amount : Shows 12 row.amount cost

lemma toInt_of_amount {d : Decimal} (h : d.IsAmount) : d.toInt = ⌊d.magnitude⌋₊ := by
  cases d with
  | finite s m e =>
      have hsigned : ∀ n : Nat, (m = 0 → n = 0) → Decimal.signed s n = n := by
        intro n hn
        rcases h with rfl | hm
        · rfl
        · rw [hn hm]
          cases s <;> rfl
      show Decimal.signed s _ = ((⌊(m : ℚ) * 10 ^ e⌋₊ : ℕ) : ℤ)
      rw [hsigned]
      · congr 1
        by_cases he : 0 ≤ e
        · rw [if_pos he]
          lift e to ℕ using he
          rw [Int.toNat_natCast, zpow_natCast]
          exact_mod_cast (Nat.floor_natCast (m * 10 ^ e)).symm
        · rw [if_neg he, ← Decimal.floor_div_pow]
          congr 1
          rw [div_eq_mul_inv, ← zpow_natCast, ← zpow_neg, Int.toNat_of_nonneg (by omega), neg_neg]
      · rintro rfl
        split_ifs
        · exact Nat.zero_mul _
        · exact Nat.zero_div _
  | infinite s => exact h.elim
  | nan => exact h.elim

/-- Quantizing an amount. -/
lemma quantize_amount {d : Decimal} (h : d.IsAmount) {places : Nat} (hp : places ≤ 999999) :
    (¬ Fits places d.magnitude ∧
        Decimal.quantize .halfUp places d = .error .invalidOperation) ∨
      Fits places d.magnitude ∧ ∃ s, Decimal.quantize .halfUp places d =
        .ok (.finite s (halfUp (d.magnitude * 10 ^ places)) (-(places : ℤ))) ∧
          (s = true → halfUp (d.magnitude * 10 ^ places) = 0) := by
  cases d with
  | finite s m e =>
      have hspec := Decimal.quantize_spec (s := s) (m := m) (e := e) hp
      by_cases hfits : halfUp ((m : ℚ) * 10 ^ e * 10 ^ places) < 10 ^ Decimal.precision
      · right
        rw [if_pos hfits] at hspec
        refine ⟨hfits, s, hspec, ?_⟩
        rintro rfl
        rcases h with h | hm
        · cases h
        · show halfUp ((m : ℚ) * 10 ^ e * 10 ^ places) = 0
          rw [hm, Nat.cast_zero, zero_mul, zero_mul]
          exact_mod_cast Decimal.halfUp_natCast 0
      · left
        rw [if_neg hfits] at hspec
        exact ⟨hfits, hspec⟩
  | infinite s => exact h.elim
  | nan => exact h.elim

/-- One turn of the loop: the next row and the next sum, or an amount that is too large. -/
lemma costComponent_spec {kind : String} {amount rate sum : Decimal} (hamount : amount.IsAmount)
    (hrate : rate.IsAmount) (hsum : sum.IsAmount) :
    ((∃ e, costComponent kind amount rate sum = .error e) ∧
        (¬ Fits 12 (componentCost amount.magnitude rate.magnitude) ∨
          10 ^ (28 : ℤ) ≤
            contextRound (sum.magnitude + componentCost amount.magnitude rate.magnitude))) ∨
      Fits 12 (componentCost amount.magnitude rate.magnitude) ∧
        ∃ row next, costComponent kind amount rate sum = .ok (row, next) ∧
          RowOf kind amount.magnitude (componentCost amount.magnitude rate.magnitude) row ∧
            next.IsAmount ∧ next.magnitude =
              contextRound (sum.magnitude + componentCost amount.magnitude rate.magnitude) := by
  unfold costComponent
  obtain ⟨hlarge, hmul⟩ | ⟨product, hmul, hproduct, hcontext, hvalue⟩ :=
    Decimal.mul_rounds hamount hrate
  · left
    rw [hmul]
    refine ⟨⟨_, rfl⟩, .inl (not_fits_of_large (large_contextRound ?_) 12)⟩
    rw [le_div_iff₀ (by norm_num)]
    refine le_trans ?_ hlarge
    rw [show (10 : ℚ) ^ 6 = 10 ^ (6 : ℤ) by norm_num, ← zpow_add₀ (by norm_num)]
    exact zpow_le_zpow_right₀ (by norm_num) (by norm_num)
  rw [hmul]
  obtain ⟨hlarge, hdiv⟩ | ⟨cost, hdiv, hcost, -, hcostValue⟩ :=
    Decimal.div_million_rounds hproduct hcontext
  · left
    rw [hvalue] at hlarge
    refine ⟨?_, .inl (not_fits_of_large (large_of_overflow hlarge) 12)⟩
    show ∃ e, (ofDecimal (Decimal.div product (.ofInt 1000000)) >>= _) = _
    rw [hdiv]
    exact ⟨_, rfl⟩
  rw [hvalue] at hcostValue
  change cost.magnitude = componentCost amount.magnitude rate.magnitude at hcostValue
  obtain ⟨hlarge, hadd⟩ | ⟨next, hadd, hnext, -, hnextValue⟩ := Decimal.add_rounds hsum hcost
  · left
    rw [hcostValue] at hlarge
    refine ⟨?_, .inr (large_of_overflow hlarge)⟩
    show ∃ e, (ofDecimal (Decimal.div product (.ofInt 1000000)) >>= _) = _
    rw [hdiv]
    show ∃ e, (ofDecimal (Decimal.add sum cost) >>= _) = _
    rw [hadd]
    exact ⟨_, rfl⟩
  rw [hcostValue] at hnextValue
  obtain ⟨hfits, hround⟩ | ⟨hfits, s, hround, hzero⟩ :=
    quantize_amount hcost (show 12 ≤ 999999 by norm_num)
  · left
    rw [hcostValue] at hfits
    refine ⟨?_, .inl hfits⟩
    show ∃ e, (ofDecimal (Decimal.div product (.ofInt 1000000)) >>= _) = _
    rw [hdiv]
    show ∃ e, (ofDecimal (Decimal.add sum cost) >>= _) = _
    rw [hadd]
    show ∃ e, (ofDecimal (Decimal.quantize .halfUp 12 cost) >>= _) = _
    rw [hround]
    exact ⟨_, rfl⟩
  · right
    rw [hcostValue] at hfits hround hzero
    refine ⟨hfits, ⟨kind, amount.toInt, rate.format, (Decimal.finite s _ (-12)).format⟩, next, ?_,
      ⟨rfl, toInt_of_amount hamount, s, rfl, hzero⟩, hnext, hnextValue⟩
    show (ofDecimal (Decimal.div product (.ofInt 1000000)) >>= _) = _
    rw [hdiv]
    show (ofDecimal (Decimal.add sum cost) >>= _) = _
    rw [hadd]
    show (ofDecimal (Decimal.quantize .halfUp 12 cost) >>= _) = _
    rw [hround]
    rfl

/-! ## The estimate of a call -/

lemma ok_bind {α β : Type} {a : α} {f : α → Except Raised β} : (Except.ok a >>= f) = f a := rfl

lemma error_bind {α β : Type} {e : Raised} {f : α → Except Raised β} :
    (Except.error e >>= f) = .error e := rfl

lemma ofDecimal_ok {α : Type} {a : α} : ofDecimal (.ok a) = .ok a := rfl

section estimates

variable [PythonText] [PythonCalendar]

/-- A count of a receipt. -/
def tokens (receipt : Json) (field : String) : ℚ := intField (receipt.field "usage") field

/-- The tokens of the output, with those of the thinking. -/
def outputTokens (receipt : Json) : ℚ :=
  contextRound (tokens receipt "outputCandidates" + tokens receipt "reasoningThinking")

/-- The price of a million tokens. -/
def rateOf (entry : Json) (name : String) : ℚ :=
  ((readDecimal ((entry.field "ratesPerMillion").field name) false).getD .nan).magnitude

/-- The rate of the currency. -/
def krwOf (rate : Json) : ℚ := ((readDecimal (rate.field "krwPerUsd") true).getD .nan).magnitude

/-- What the components of a call cost. -/
def callCosts (receipt entry : Json) : List ℚ :=
  [componentCost (tokens receipt "inputNonCached") (rateOf entry "inputNonCached"),
    componentCost (tokens receipt "cacheRead") (rateOf entry "cacheRead"),
    componentCost (outputTokens receipt) (rateOf entry "outputIncludingThinking")]

/-- What the call costs, in one currency and in the other. -/
def usdOf (receipt entry : Json) : ℚ := sumCosts (callCosts receipt entry)

/-- The amount in the other currency, before its rounding to places. -/
def convertedOf (receipt entry rate : Json) : ℚ :=
  contextRound (fixed 12 (usdOf receipt entry) * krwOf rate)

/-- Every amount of the estimate can be written: the components, their sum and its value in the
other currency, and the number of output tokens. -/
structure Affordable (receipt entry rate : Json) : Prop where
  tokens : outputTokens receipt < 10 ^ maxIntDigits
  costs : ∀ cost ∈ callCosts receipt entry, Fits 12 cost
  usd : Fits 12 (usdOf receipt entry)
  krw : Fits 4 (convertedOf receipt entry rate)

/-- What the estimate says. -/
structure Estimates (receipt : Json) (v : Valuation) (entry rate : Json) (p : Projection) :
    Prop where
  callId : p.callId = receipt.field "callId"
  receiptDigest : p.usageReceiptDigest = receipt.field "receiptDigest"
  status : p.status ≠ .unavailable
  entryId : p.pricingEntryId = entry.field "entryId"
  rateDate : p.rateDate = some (IsoDate.isoformat (rateDay rate))
  usdPerEur : p.usdPerEur = rate.field "usdPerEur"
  krwPerEur : p.krwPerEur = rate.field "krwPerEur"
  krwPerUsd : ∃ krw, readDecimal (rate.field "krwPerUsd") true = some krw ∧
    p.krwPerUsd = some krw.format
  components : ∃ input cache output, p.components = [input, cache, output] ∧
    RowOf "input_non_cached" (tokens receipt "inputNonCached")
      (componentCost (tokens receipt "inputNonCached") (rateOf entry "inputNonCached")) input ∧
    RowOf "cache_read" (tokens receipt "cacheRead")
      (componentCost (tokens receipt "cacheRead") (rateOf entry "cacheRead")) cache ∧
    RowOf "output_including_thinking" (outputTokens receipt)
      (componentCost (outputTokens receipt) (rateOf entry "outputIncludingThinking")) output
  usd : ∃ text, p.amountUsd = some text ∧ Shows 12 text (usdOf receipt entry)
  krw : ∃ text, p.amountKrw = some text ∧ Shows 4 text (convertedOf receipt entry rate)

/-- The components of a call, or an amount that is too large. -/
lemma costComponents_spec {receipt entry : Json} {key : List String} {id : String}
    (h : Readable receipt) (hcounted : Counted receipt) (hentry : Priced entry key id) :
    ((∃ e, costComponents (receipt.field "usage") (entry.field "ratesPerMillion") = .error e) ∧
        (10 ^ maxIntDigits ≤ outputTokens receipt ∨
          (∃ cost ∈ callCosts receipt entry, ¬ Fits 12 cost) ∨
            ¬ Fits 12 (usdOf receipt entry))) ∨
      (∀ cost ∈ callCosts receipt entry, Fits 12 cost) ∧
        ∃ input cache output sum,
          costComponents (receipt.field "usage") (entry.field "ratesPerMillion") =
            .ok ([input, cache, output], sum) ∧
          sum.IsAmount ∧ sum.magnitude = usdOf receipt entry ∧
          RowOf "input_non_cached" (tokens receipt "inputNonCached")
            (componentCost (tokens receipt "inputNonCached") (rateOf entry "inputNonCached"))
              input ∧
          RowOf "cache_read" (tokens receipt "cacheRead")
            (componentCost (tokens receipt "cacheRead") (rateOf entry "cacheRead")) cache ∧
          RowOf "output_including_thinking" (outputTokens receipt)
            (componentCost (outputTokens receipt) (rateOf entry "outputIncludingThinking"))
              output := by
  have hquantity : ∀ field ∈ quantityFields, ∃ d : Decimal,
      quantity (receipt.field "usage") field = .ok d ∧ d.IsAmount ∧
        d.magnitude = tokens receipt field := by
    intro field hfield
    obtain ⟨n, hn, -⟩ := (h.counts field hfield).resolve_left (hcounted field hfield)
    refine ⟨.ofInt n, ?_, .inl (decide_eq_false (by omega)), ?_⟩
    · unfold quantity
      rw [hn]
      rfl
    · unfold tokens intField
      rw [hn]
      show (((n : ℤ).natAbs : ℕ) : ℚ) * 10 ^ (0 : ℤ) = ((n : ℤ) : ℚ)
      simp
  have hrate : ∀ name ∈ ["cacheRead", "inputNonCached", "outputIncludingThinking"], ∃ d : Decimal,
      (∀ path, costDecimal ((entry.field "ratesPerMillion").field name) path false = .ok d) ∧
        d.IsAmount ∧ d.magnitude = rateOf entry name := by
    intro name hname
    obtain ⟨d, hd⟩ := hentry.rates name hname
    have hread := (@readDecimal_eq_some _ _ _ "" _ _).mp hd
    obtain ⟨s, -, -, hallowed⟩ := costDecimal_ok.mp hread
    refine ⟨d, fun path => readDecimal_eq_some.mp hd, isAmount_of_isAllowed hallowed, ?_⟩
    unfold rateOf
    rw [hd]
    rfl
  obtain ⟨input, hinput, hinputAmount, hinputValue⟩ := hquantity "inputNonCached" (by decide)
  obtain ⟨cache, hcache, hcacheAmount, hcacheValue⟩ := hquantity "cacheRead" (by decide)
  obtain ⟨candidates, hcandidates, hcandidatesAmount, hcandidatesValue⟩ :=
    hquantity "outputCandidates" (by decide)
  obtain ⟨thinking, hthinking, hthinkingAmount, hthinkingValue⟩ :=
    hquantity "reasoningThinking" (by decide)
  obtain ⟨inputRate, hinputRate, hinputRateAmount, hinputRateValue⟩ :=
    hrate "inputNonCached" (by decide)
  obtain ⟨cacheRate, hcacheRate, hcacheRateAmount, hcacheRateValue⟩ := hrate "cacheRead" (by decide)
  obtain ⟨outputRate, houtputRate, houtputRateAmount, houtputRateValue⟩ :=
    hrate "outputIncludingThinking" (by decide)
  have hcosts : callCosts receipt entry =
      [componentCost input.magnitude inputRate.magnitude,
        componentCost cache.magnitude cacheRate.magnitude,
        componentCost (outputTokens receipt) outputRate.magnitude] := by
    unfold callCosts
    rw [hinputValue, hinputRateValue, hcacheValue, hcacheRateValue, houtputRateValue]
  have hnonneg : ∀ cost ∈ callCosts receipt entry, 0 ≤ cost := by
    intro cost hcost
    rw [hcosts] at hcost
    simp only [List.mem_cons, List.not_mem_nil, or_false] at hcost
    obtain rfl | rfl | rfl := hcost
    · exact componentCost_nonneg _ _
    · exact componentCost_nonneg _ _
    · exact componentCost_nonneg _ _
  rw [← hinputValue, ← hinputRateValue, ← hcacheValue, ← hcacheRateValue, ← houtputRateValue]
  unfold costComponents
  rw [hinput, ok_bind, hcache, ok_bind, hcandidates, ok_bind, hthinking, ok_bind, hinputRate,
    ok_bind, hcacheRate, ok_bind]
  obtain ⟨hlarge, hadd⟩ | ⟨output, hadd, houtputAmount, -, houtputValue⟩ :=
    Decimal.add_rounds hcandidatesAmount hthinkingAmount
  · left
    rw [hcandidatesValue, hthinkingValue] at hlarge
    rw [hadd]
    refine ⟨⟨_, rfl⟩, .inl (le_trans ?_ hlarge)⟩
    rw [← zpow_natCast]
    exact zpow_le_zpow_right₀ (by norm_num) (by unfold maxIntDigits; norm_num)
  rw [hcandidatesValue, hthinkingValue] at houtputValue
  change output.magnitude = outputTokens receipt at houtputValue
  rw [← houtputValue] at hcosts ⊢
  rw [hadd, ofDecimal_ok, ok_bind, houtputRate, ok_bind]
  have hzero : (Decimal.ofInt 0).IsAmount := .inl rfl
  have hzeroValue : (Decimal.ofInt 0).magnitude = 0 := by
    show (((0 : ℤ).natAbs : ℕ) : ℚ) * 10 ^ (0 : ℤ) = 0
    simp
  have husd : usdOf receipt entry = contextRound (contextRound (contextRound
      (0 + componentCost input.magnitude inputRate.magnitude) +
        componentCost cache.magnitude cacheRate.magnitude) +
          componentCost output.magnitude outputRate.magnitude) := by
    unfold usdOf sumCosts
    rw [hcosts]
    rfl
  -- a sum that is too large on the way is too large at the end
  have hmember : ∀ {cost : ℚ}, cost ∈ callCosts receipt entry → ¬ Fits 12 cost →
      ∃ cost ∈ callCosts receipt entry, ¬ Fits 12 cost := fun hmem hnot => ⟨_, hmem, hnot⟩
  have hgrow : ∀ {x y : ℚ}, 0 ≤ y → (10 : ℚ) ^ (28 : ℤ) ≤ x →
      (10 : ℚ) ^ (28 : ℤ) ≤ contextRound (x + y) :=
    fun hy hx => large_contextRound (by linarith)
  obtain ⟨⟨e, he⟩, hbad⟩ | ⟨hfits₁, first, sum₁, hfirst, hrow₁, hsum₁, hvalue₁⟩ :=
    @costComponent_spec "input_non_cached" _ _ _ hinputAmount hinputRateAmount hzero
  · left
    refine ⟨⟨e, by rw [he, error_bind]⟩, ?_⟩
    rcases hbad with hbad | hbad
    · exact .inr (.inl (hmember (by rw [hcosts]; simp) hbad))
    · rw [hzeroValue] at hbad
      refine .inr (.inr (not_fits_of_large ?_ 12))
      rw [husd]
      exact hgrow (componentCost_nonneg _ _) (hgrow (componentCost_nonneg _ _) hbad)
  rw [hfirst, ok_bind]
  dsimp only
  rw [hzeroValue] at hvalue₁
  obtain ⟨⟨e, he⟩, hbad⟩ | ⟨hfits₂, second, sum₂, hsecond, hrow₂, hsum₂, hvalue₂⟩ :=
    @costComponent_spec "cache_read" _ _ _ hcacheAmount hcacheRateAmount hsum₁
  · left
    refine ⟨⟨e, by rw [he, error_bind]⟩, ?_⟩
    rcases hbad with hbad | hbad
    · exact .inr (.inl (hmember (by rw [hcosts]; simp) hbad))
    · rw [hvalue₁] at hbad
      refine .inr (.inr (not_fits_of_large ?_ 12))
      rw [husd]
      exact hgrow (componentCost_nonneg _ _) hbad
  rw [hsecond, ok_bind]
  dsimp only
  rw [hvalue₁] at hvalue₂
  obtain ⟨⟨e, he⟩, hbad⟩ | ⟨hfits₃, third, sum₃, hthird, hrow₃, hsum₃, hvalue₃⟩ :=
    @costComponent_spec "output_including_thinking" _ _ _ houtputAmount houtputRateAmount hsum₂
  · left
    refine ⟨⟨e, by rw [he, error_bind]⟩, ?_⟩
    rcases hbad with hbad | hbad
    · exact .inr (.inl (hmember (by rw [hcosts]; simp) hbad))
    · rw [hvalue₂] at hbad
      refine .inr (.inr (not_fits_of_large ?_ 12))
      rw [husd]
      exact hbad
  · right
    rw [hthird, ok_bind]
    rw [hvalue₂] at hvalue₃
    refine ⟨fun cost hcost => ?_, first, second, third, sum₃, rfl, hsum₃, hvalue₃.trans husd.symm,
      hrow₁, hrow₂, hrow₃⟩
    rw [hcosts] at hcost
    simp only [List.mem_cons, List.not_mem_nil, or_false] at hcost
    obtain rfl | rfl | rfl := hcost
    · exact hfits₁
    · exact hfits₂
    · exact hfits₃

/-- The estimate says what the call costs, or an amount is too large for it. -/
lemma estimate_spec {receipt entry rate : Json} {v : Valuation} {key : List String}
    {id date : String} (h : Readable receipt) (hcounted : Counted receipt) (hentry : Priced entry key id)
    (hrate : Listed rate date) :
    ((∃ e, estimate receipt v entry rate (rateDay rate) = .error e) ∧
        ¬ Affordable receipt entry rate) ∨
      (outputTokens receipt < 10 ^ maxIntDigits → Affordable receipt entry rate) ∧
        ∃ p, estimate receipt v entry rate (rateDay rate) = .ok p ∧
          Estimates receipt v entry rate p := by
  obtain ⟨krw, hkrw⟩ := hrate.krwPerUsd
  have hread := (@readDecimal_eq_some _ _ _ "fx.krwPerUsd" _ _).mp hkrw
  obtain ⟨_, -, -, hallowed⟩ := costDecimal_ok.mp hread
  have hkrwAmount := isAmount_of_isAllowed hallowed
  have hkrwValue : krw.magnitude = krwOf rate := by
    unfold krwOf
    rw [hkrw]
    rfl
  unfold estimate
  obtain ⟨⟨e, he⟩, hbad⟩ | ⟨hcosts, input, cache, output, sum, hcomponents, hsum, hsumValue, hinput,
    hcache, houtput⟩ := costComponents_spec h hcounted hentry
  · left
    rw [he, error_bind]
    refine ⟨⟨e, rfl⟩, fun haffordable => ?_⟩
    rcases hbad with hbad | ⟨cost, hcost, hbad⟩ | hbad
    · exact absurd haffordable.tokens (not_lt.mpr hbad)
    · exact hbad (haffordable.costs cost hcost)
    · exact hbad haffordable.usd
  rw [hcomponents, ok_bind]
  dsimp only
  rw [hread, ok_bind]
  obtain ⟨hfits, hround⟩ | ⟨husd, s, hround, hsign⟩ :=
    quantize_amount hsum (show 12 ≤ 999999 by norm_num)
  · left
    rw [hround]
    rw [hsumValue] at hfits
    exact ⟨⟨_, rfl⟩, fun haffordable => hfits haffordable.usd⟩
  rw [hsumValue] at husd hround hsign
  rw [hround, ofDecimal_ok, ok_bind]
  have hrounded : Decimal.IsAmount
      (.finite s (halfUp (usdOf receipt entry * 10 ^ 12)) (-((12 : ℕ) : ℤ))) := by
    cases s with
    | false => exact .inl rfl
    | true => exact .inr (hsign rfl)
  have hroundedValue : Decimal.magnitude
      (.finite s (halfUp (usdOf receipt entry * 10 ^ 12)) (-((12 : ℕ) : ℤ))) =
        fixed 12 (usdOf receipt entry) := by
    show (halfUp (usdOf receipt entry * 10 ^ 12) : ℚ) * 10 ^ (-((12 : ℕ) : ℤ)) = _
    rw [zpow_neg, zpow_natCast, ← div_eq_mul_inv]
    rfl
  obtain ⟨hlarge, hmul⟩ | ⟨converted, hmul, hconverted, -, hconvertedValue⟩ :=
    Decimal.mul_rounds hrounded hkrwAmount
  · left
    rw [hmul]
    rw [hroundedValue, hkrwValue] at hlarge
    exact ⟨⟨_, rfl⟩,
      fun haffordable => not_fits_of_large (large_of_overflow hlarge) 4 haffordable.krw⟩
  rw [hroundedValue, hkrwValue] at hconvertedValue
  change converted.magnitude = convertedOf receipt entry rate at hconvertedValue
  rw [hmul, ofDecimal_ok, ok_bind]
  obtain ⟨hfits, hround'⟩ | ⟨hkrwFits, t, hround', hsign'⟩ :=
    quantize_amount hconverted (show 4 ≤ 999999 by norm_num)
  · left
    rw [hround']
    rw [hconvertedValue] at hfits
    exact ⟨⟨_, rfl⟩, fun haffordable => hfits haffordable.krw⟩
  rw [hconvertedValue] at hkrwFits hround' hsign'
  rw [hround', ofDecimal_ok, ok_bind]
  right
  refine ⟨fun htokens => ⟨htokens, hcosts, husd, hkrwFits⟩, _, rfl, ?_⟩
  refine ⟨rfl, rfl, ?_, rfl, rfl, rfl, rfl, ⟨krw, hkrw, rfl⟩,
    ⟨input, cache, output, rfl, hinput, hcache, houtput⟩,
    ⟨_, rfl, s, rfl, hsign⟩, ⟨_, rfl, t, rfl, hsign'⟩⟩
  dsimp only
  split_ifs
  · nofun
  · nofun

end estimates

end AgentRuntimeOps.Usage
