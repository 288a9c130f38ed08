import AgentRuntimeOps.Lib.DecimalValue
import AgentRuntimeOps.Usage.Consistency
import AgentRuntimeOps.Usage.Cost

/-!
# Which price and which rate

What `project_call_cost` selects from a catalogue and a rate ledger that were checked: at most one
price applies to a call, and the rate is that of the last day on or before the day of the call in
Seoul, unless it is too old.  The checks have read every time, day and number that the selection
reads again, so that it raises nothing.
-/

namespace AgentRuntimeOps.Usage

open AgentRuntimeOps.Lib

section selection

variable [PythonText] [PythonCalendar]

/-! ## What a field says -/

/-- The time in a field. -/
def readTime (value : Json) : Option Int := (costTimestamp value "").toOption

/-- The day in a field. -/
def readDay (value : Json) : Option Nat := (costDay value "").toOption

/-- The number in a field. -/
def readDecimal (value : Json) (positive : Bool) : Option Decimal :=
  (costDecimal value "" positive).toOption

omit [PythonText] [PythonCalendar] in
lemma toOption_eq_some {α : Type} {x : Except Raised α} {a : α} :
    x.toOption = some a ↔ x = .ok a := by
  cases x with
  | ok b => exact ⟨fun h => congrArg _ (Option.some.inj h), fun h => congrArg _ (Except.ok.inj h)⟩
  | error e => exact ⟨nofun, nofun⟩

omit [PythonCalendar] in
lemma costText_ok {value : Json} {path s : String} :
    costText value path = .ok s ↔ value = .str s ∧ s.toList.all PythonText.isSpace = false := by
  unfold costText
  cases value with
  | str text =>
      simp only [except_bind_ok, check_ok, except_pure_ok, exists_const]
      constructor
      · rintro ⟨hblank, rfl⟩
        exact ⟨rfl, by simpa using hblank⟩
      · rintro ⟨htext, hblank⟩
        cases htext
        exact ⟨by simpa using hblank, rfl⟩
  | _ => exact ⟨nofun, nofun⟩

omit [PythonCalendar] in
lemma costTimestamp_ok {value : Json} {path : String} {t : Int} :
    costTimestamp value path = .ok t ↔ ∃ s, value = .str s ∧
      s.toList.all PythonText.isSpace = false ∧
        PythonText.fromisoformat (replaceZulu s) = .utc t := by
  unfold costTimestamp
  rw [except_bind_ok]
  constructor
  · rintro ⟨s, hs, h⟩
    obtain ⟨rfl, hblank⟩ := costText_ok.mp hs
    refine ⟨s, rfl, hblank, ?_⟩
    cases htime : PythonText.fromisoformat (replaceZulu s) with
    | utc micros =>
        rw [htime] at h
        rw [except_pure_ok.mp h]
    | _ =>
        rw [htime] at h
        cases h
  · rintro ⟨s, rfl, hblank, htime⟩
    refine ⟨s, costText_ok.mpr ⟨rfl, hblank⟩, ?_⟩
    rw [htime]
    rfl

omit [PythonCalendar] in
lemma readTime_eq_some {value : Json} {path : String} {t : Int} :
    readTime value = some t ↔ costTimestamp value path = .ok t := by
  unfold readTime
  rw [toOption_eq_some, costTimestamp_ok, costTimestamp_ok]

omit [PythonCalendar] in
lemma costDay_ok {value : Json} {path : String} {day : Nat} :
    costDay value path = .ok day ↔ ∃ s, value = .str s ∧
      s.toList.all PythonText.isSpace = false ∧ IsoDate.fromisoformat s = some day := by
  unfold costDay
  rw [except_bind_ok]
  constructor
  · rintro ⟨s, hs, h⟩
    obtain ⟨rfl, hblank⟩ := costText_ok.mp hs
    exact ⟨s, rfl, hblank, orRaise_ok.mp h⟩
  · rintro ⟨s, rfl, hblank, h⟩
    exact ⟨s, costText_ok.mpr ⟨rfl, hblank⟩, orRaise_ok.mpr h⟩

omit [PythonCalendar] in
lemma readDay_eq_some {value : Json} {path : String} {day : Nat} :
    readDay value = some day ↔ costDay value path = .ok day := by
  unfold readDay
  rw [toOption_eq_some, costDay_ok, costDay_ok]

lemma costDecimal_ok {value : Json} {path : String} {positive : Bool} {d : Decimal} :
    costDecimal value path positive = .ok d ↔ ∃ s, value = .str s ∧
      Decimal.parse PythonCalendar.decimalDigit (stripText s) = some d ∧
        isAllowed positive d = true := by
  unfold costDecimal
  cases value with
  | str text =>
      simp only [except_bind_ok, check_ok, except_pure_ok, orRaise_ok, exists_const]
      constructor
      · rintro ⟨d', hparse, hallowed, rfl⟩
        exact ⟨text, rfl, hparse, hallowed⟩
      · rintro ⟨s, htext, hparse, hallowed⟩
        cases htext
        exact ⟨d, hparse, hallowed, rfl⟩
  | _ =>
      constructor
      · intro h
        cases h
      · rintro ⟨s, hs, -⟩
        cases hs

lemma readDecimal_eq_some {value : Json} {path : String} {positive : Bool} {d : Decimal} :
    readDecimal value positive = some d ↔ costDecimal value path positive = .ok d := by
  unfold readDecimal
  rw [toOption_eq_some, costDecimal_ok, costDecimal_ok]

omit [PythonText] [PythonCalendar] in
lemma isAmount_of_isAllowed {positive : Bool} {d : Decimal} (h : isAllowed positive d = true) :
    d.IsAmount := by
  cases d with
  | finite s m e =>
      obtain ⟨hsign, -⟩ := Bool.and_eq_true_iff.mp h
      rcases Bool.or_eq_true_iff.mp hsign with hs | hm
      · exact .inl (by simpa using hs)
      · exact .inr (beq_iff_eq.mp hm)
  | infinite s => cases h
  | nan => cases h

/-! ## What was checked -/

omit [PythonText] [PythonCalendar] in
lemma discard_ok {α : Type} {x : Except Raised α} {u : Unit} :
    discard x = .ok u ↔ ∃ a, x = .ok a := by
  cases x with
  | ok a => exact ⟨fun _ => ⟨a, rfl⟩, fun _ => rfl⟩
  | error e => exact ⟨nofun, nofun⟩

omit [PythonText] [PythonCalendar] in
/-- The items of a list are related to what is made of them under their positions. -/
lemma forall₂_of_zipIdx {α β : Type} {R : α → β → Prop} {f : α × Nat → Except Raised β}
    (hR : ∀ a i b, f (a, i) = .ok b → R a b) {as : List α} {start : Nat} {bs : List β}
    (h : (as.zipIdx start).mapM f = .ok bs) : List.Forall₂ R as bs := by
  induction as generalizing start bs with
  | nil =>
      rw [List.zipIdx_nil] at h
      rw [List.forall₂_nil_left_iff]
      exact (except_pure_ok.mp h).symm
  | cons a as ih =>
      rw [List.zipIdx_cons, List.mapM_cons, except_bind_ok] at h
      obtain ⟨b, hb, h⟩ := h
      obtain ⟨rest, hrest, h⟩ := except_bind_ok.mp h
      rw [← except_pure_ok.mp h]
      exact .cons (hR a start b hb) (ih hrest)

/-- The fields that select a price. -/
def selectorFields : List String :=
  ["provider", "apiProduct", "actualModel", "serviceTier", "priceScenario"]

/-- A price as it was checked. -/
structure Priced (entry : Json) (key : List String) (entryId : String) : Prop where
  entryId : entry.field "entryId" = .str entryId
  key : selectorFields.map entry.field = key.map .str
  start : ∃ t, readTime (entry.field "effectiveFrom") = some t
  till : entry.field "effectiveUntil" = .null ∨
    ∃ t, readTime (entry.field "effectiveUntil") = some t
  rates : ∀ name ∈ ["cacheRead", "inputNonCached", "outputIncludingThinking"],
    ∃ d, readDecimal ((entry.field "ratesPerMillion").field name) false = some d

omit [PythonCalendar] in
lemma validateUntil_ok {value : Json} {start : Int} {path : String}
    (h : validateUntil value start path = .ok ()) :
    value = .null ∨ ∃ t, readTime value = some t := by
  unfold validateUntil at h
  cases value with
  | null => exact .inl rfl
  | _ =>
      right
      simp only [except_bind_ok] at h
      obtain ⟨_, -, t, ht, -⟩ := h
      exact ⟨t, readTime_eq_some.mpr ht⟩

lemma validateEntry_ok {entry : Json} {path : String} {checked : List String × String}
    (h : validateEntry entry path = .ok checked) : Priced entry checked.1 checked.2 := by
  simp only [validateEntry, except_bind_ok, check_ok, except_pure_ok, exists_and_left,
    exists_const] at h
  obtain ⟨_, -, id, hid, provider, hprovider, product, hproduct, model, hmodel, tier, htier,
    scenario, hscenario, -, -, start, hstart, _, htill, _, hkeys, _, hrates, _, -, -, _, -,
    rfl⟩ := h
  have hnames : (entry.field "ratesPerMillion").keys =
      ["cacheRead", "inputNonCached", "outputIncludingThinking"] := by
    simp only [exactFields, except_bind_ok, check_ok, exists_const] at hkeys
    exact hkeys.2
  refine ⟨(costText_ok.mp hid).1, ?_, ⟨start, readTime_eq_some.mpr hstart⟩, validateUntil_ok htill,
    fun name hname => ?_⟩
  · simp only [selectorFields, List.map_cons, List.map_nil, (costText_ok.mp hprovider).1,
      (costText_ok.mp hproduct).1, (costText_ok.mp hmodel).1, (costText_ok.mp htier).1,
      (costText_ok.mp hscenario).1]
  · rw [requireEach_ok, hnames] at hrates
    obtain ⟨d, hd⟩ := discard_ok.mp (hrates name hname)
    exact ⟨d, readDecimal_eq_some.mpr hd⟩

/-- A rate as it was checked. -/
structure Listed (rate : Json) (date : String) : Prop where
  day : ∃ d, readDay (rate.field "rateDate") = some d ∧ date = IsoDate.isoformat d
  krwPerUsd : ∃ d, readDecimal (rate.field "krwPerUsd") true = some d
  usdPerEur : ∃ s, rate.field "usdPerEur" = .str s
  krwPerEur : ∃ s, rate.field "krwPerEur" = .str s

lemma validateRate_ok {rate : Json} {path date : String}
    (h : validateRate rate path = .ok date) : Listed rate date := by
  simp only [validateRate, except_bind_ok, check_ok, except_pure_ok, exists_and_left,
    exists_const] at h
  obtain ⟨_, -, day, hday, usd, husd, krw, hkrw, cross, hcross, _, -, _, -, -, _, -, _, -, _, -, _,
    -, -, -, rfl⟩ := h
  obtain ⟨usdText, husdText, -⟩ := costDecimal_ok.mp husd
  obtain ⟨krwText, hkrwText, -⟩ := costDecimal_ok.mp hkrw
  exact ⟨⟨day, readDay_eq_some.mpr hday, rfl⟩, ⟨cross, readDecimal_eq_some.mpr hcross⟩,
    ⟨usdText, husdText⟩, ⟨krwText, hkrwText⟩⟩

/-- The items of an array. -/
def itemsOf : Json → List Json
  | .arr items => items
  | _ => []

/-- The prices of a catalogue. -/
def PricingCatalog.entries (catalog : PricingCatalog) : List Json :=
  itemsOf (catalog.payload.field "entries")

/-- The rates of a ledger. -/
def DailyReferenceFxLedger.rates (fx : DailyReferenceFxLedger) : List Json :=
  itemsOf (fx.payload.field "rates")

lemma PricingCatalog.checked (catalog : PricingCatalog) :
    catalog.payload.field "entries" = .arr catalog.entries ∧
      ∃ checked : List (List String × String),
        List.Forall₂ (fun entry row => Priced entry row.1 row.2) catalog.entries checked ∧
          (checked.map Prod.fst).Nodup := by
  have h := catalog.valid
  simp only [validatePricingCatalog, except_bind_ok, check_ok, exists_and_left, exists_const] at h
  obtain ⟨_, -, -, _, -, _, -, entries, hentries, checked, hchecked, -, hnodup, -⟩ := h
  have hitems := arrayItems_ok.mp hentries
  have heq : catalog.entries = entries := congrArg itemsOf hitems
  rw [heq]
  exact ⟨hitems, checked, forall₂_of_zipIdx (fun _ _ _ => validateEntry_ok) hchecked, hnodup⟩

lemma DailyReferenceFxLedger.checked (fx : DailyReferenceFxLedger) :
    fx.payload.field "rates" = .arr fx.rates ∧
      ∃ days : List String, List.Forall₂ Listed fx.rates days ∧ days.Pairwise (· < ·) := by
  have h := fx.valid
  simp only [validateFxLedger, except_bind_ok, check_ok, exists_and_left, exists_const] at h
  obtain ⟨_, -, -, _, -, _, -, -, h⟩ := h
  obtain ⟨rates, hrates, days, hdays, hsorted⟩ : ∃ rates, arrayItems (fx.payload.field "rates")
      "fx.rates must be an array" = .ok rates ∧ ∃ days,
        rates.zipIdx.mapM (fun rate =>
          validateRate rate.1 ("fx.rates[" ++ toString rate.2 ++ "]")) = .ok days ∧
            days = sortedSet days := by
    cases hcarry : fx.payload.field "maxCarryDays" with
    | int i =>
        rw [hcarry] at h
        simp only [pure_bind, except_bind_ok, check_ok, exists_and_left, exists_const] at h
        obtain ⟨-, rates, hrates, days, hdays, hsorted, -⟩ := h
        exact ⟨rates, hrates, days, hdays, hsorted⟩
    | _ =>
        rw [hcarry] at h
        cases h
  have hitems := arrayItems_ok.mp hrates
  have heq : fx.rates = rates := congrArg itemsOf hitems
  rw [heq]
  refine ⟨hitems, days, forall₂_of_zipIdx (fun _ _ _ => validateRate_ok) hdays, ?_⟩
  rw [hsorted]
  exact sortedSet_pairwise days

/-! ## The price of a call -/

/-- The price is for these five names, and valid at the time: from its start on, and before its
end. -/
def Applies (entry : Json) (key : List String) (startedAt : Int) : Prop :=
  selectorFields.map entry.field = key.map .str ∧
    (∃ start ∈ readTime (entry.field "effectiveFrom"), start ≤ startedAt) ∧
      (entry.field "effectiveUntil" = .null ∨
        ∃ till ∈ readTime (entry.field "effectiveUntil"), startedAt < till)

instance (entry : Json) (key : List String) (startedAt : Int) :
    Decidable (Applies entry key startedAt) := by
  unfold Applies
  infer_instance

/-- The names by which a call selects its price. -/
def selectorOf (receipt : Json) (v : Valuation) : Option (List String) := do
  let provider ← nonemptyText ((receipt.field "actual").field "provider")
  let model ← nonemptyText ((receipt.field "actual").field "model")
  let tier ← nonemptyText ((receipt.field "usage").field "serviceTier")
  return [provider, v.apiProduct, model, tier, v.priceScenario]

/-- The price is one for the call. -/
def Selects (receipt : Json) (v : Valuation) (entry : Json) : Prop :=
  entry ∈ v.catalog.entries ∧ ∃ key ∈ selectorOf receipt v,
    ∃ startedAt ∈ readTime (receipt.field "startedAt"), Applies entry key startedAt

omit [PythonText] [PythonCalendar] in
lemma filterEach_ok {α : Type} {p : α → Except Raised Bool} {q : α → Bool} {as : List α}
    (h : ∀ a ∈ as, p a = .ok (q a)) : filterEach p as = .ok (as.filter q) := by
  induction as with
  | nil => rfl
  | cons a as ih =>
      have hrest := ih fun b hb => h b (List.mem_cons_of_mem a hb)
      unfold filterEach
      rw [h a List.mem_cons_self, hrest]
      cases hq : q a with
      | true =>
          rw [List.filter_cons_of_pos hq]
          rfl
      | false =>
          rw [List.filter_cons_of_neg (by simp [hq])]
          rfl

/-- A price that was checked is compared without an exception. -/
lemma entryApplies_ok {entry : Json} {key : List String} {id : String}
    (h : Priced entry key id) (v : Valuation) (provider model tier : String) (startedAt : Int) :
    entryApplies entry v provider model tier startedAt =
      .ok (decide (Applies entry [provider, v.apiProduct, model, tier, v.priceScenario]
        startedAt)) := by
  have hnames : selectorFields.map entry.field =
      [provider, v.apiProduct, model, tier, v.priceScenario].map Json.str ↔
        entry.field "provider" = .str provider ∧ entry.field "apiProduct" = .str v.apiProduct ∧
          entry.field "actualModel" = .str model ∧ entry.field "serviceTier" = .str tier ∧
            entry.field "priceScenario" = .str v.priceScenario := by
    simp [selectorFields]
  obtain ⟨start, hstart⟩ := h.start
  unfold entryApplies
  by_cases hkey : selectorFields.map entry.field =
      [provider, v.apiProduct, model, tier, v.priceScenario].map Json.str
  · rw [if_pos (hnames.mp hkey), readTime_eq_some.mp hstart]
    by_cases hearly : startedAt < start
    · have hnot : ¬ Applies entry [provider, v.apiProduct, model, tier, v.priceScenario]
          startedAt := by
        rintro ⟨-, ⟨t, ht, hle⟩, -⟩
        rw [hstart] at ht
        cases ht
        omega
      rw [decide_eq_false hnot]
      exact if_pos hearly
    · have hstarted : ∃ t ∈ readTime (entry.field "effectiveFrom"), t ≤ startedAt :=
        ⟨start, hstart, not_lt.mp hearly⟩
      refine (if_neg hearly).trans ?_
      rcases h.till with hnull | ⟨till, htill⟩
      · rw [hnull, decide_eq_true ⟨hkey, hstarted, .inl hnull⟩]
        rfl
      · have hread := (@readTime_eq_some _ _ "entry.effectiveUntil" _).mp htill
        obtain ⟨s, hs, -⟩ := costTimestamp_ok.mp hread
        rw [hs] at hread htill ⊢
        dsimp only
        rw [hread]
        refine congrArg Except.ok ?_
        by_cases hlate : startedAt < till
        · rw [decide_eq_true hlate, decide_eq_true ⟨hkey, hstarted, .inr ⟨till, hs ▸ htill, hlate⟩⟩]
        · rw [decide_eq_false hlate, decide_eq_false]
          rintro ⟨-, -, hnull | ⟨t, ht, hlt⟩⟩
          · rw [hs] at hnull
            cases hnull
          · rw [hs, htill] at ht
            cases ht
            exact hlate hlt
  · rw [if_neg (hnames.not.mp hkey), decide_eq_false fun h => hkey h.1]
    rfl

omit [PythonText] [PythonCalendar] in
lemma exists_right_of_forall₂ {α β : Type} {R : α → β → Prop} {as : List α} {bs : List β}
    (h : List.Forall₂ R as bs) {a : α} (ha : a ∈ as) : ∃ b ∈ bs, R a b := by
  induction h with
  | nil => cases ha
  | @cons a' b as bs hab hrest ih =>
      rcases List.mem_cons.mp ha with rfl | ha
      · exact ⟨b, List.mem_cons_self, hab⟩
      · obtain ⟨b', hb', hab'⟩ := ih ha
        exact ⟨b', List.mem_cons_of_mem b hb', hab'⟩

omit [PythonText] [PythonCalendar] in
/-- At most one item has a key that no two items share. -/
lemma filter_subsingleton {α β : Type} {R : α → β → Prop} {key : β → List String}
    {k : List String} {q : α → Bool} (hq : ∀ a b, R a b → q a = true → key b = k) {as : List α}
    {bs : List β} (h : List.Forall₂ R as bs) (hnodup : (bs.map key).Nodup) :
    (as.filter q).length ≤ 1 := by
  induction h with
  | nil => exact Nat.zero_le 1
  | @cons a b as bs hab hrest ih =>
      rw [List.map_cons, List.nodup_cons] at hnodup
      by_cases ha : q a = true
      · have hnone : as.filter q = [] := by
          rw [List.filter_eq_nil_iff]
          intro a' ha' hqa'
          obtain ⟨b', hb', hab'⟩ := exists_right_of_forall₂ hrest ha'
          refine hnodup.1 (List.mem_map.mpr ⟨b', hb', ?_⟩)
          rw [hq a' b' hab' hqa', hq a b hab ha]
        rw [List.filter_cons_of_pos ha, hnone]
        exact le_refl 1
      · rw [List.filter_cons_of_neg ha]
        exact ih hnodup.2

/-- No two prices of a catalogue apply to one call. -/
lemma applicable_length (catalog : PricingCatalog) (key : List String) (startedAt : Int) :
    (catalog.entries.filter fun entry => decide (Applies entry key startedAt)).length ≤ 1 := by
  obtain ⟨-, checked, hchecked, hnodup⟩ := catalog.checked
  refine filter_subsingleton (k := key) (fun entry row hpriced happlies => ?_) hchecked hnodup
  have hkeys := hpriced.key.symm.trans (of_decide_eq_true happlies).1
  exact List.map_injective_iff.mpr (fun _ _ h => Json.str.inj h) hkeys

/-- The price of a call is unique. -/
theorem Selects.unique {receipt : Json} {v : Valuation} {entry other : Json}
    (h : Selects receipt v entry) (h' : Selects receipt v other) : entry = other := by
  obtain ⟨hentry, key, hkey, startedAt, htime, happlies⟩ := h
  obtain ⟨hother, key', hkey', startedAt', htime', happlies'⟩ := h'
  cases Option.mem_unique hkey hkey'
  cases Option.mem_unique htime htime'
  have hlength := applicable_length v.catalog key startedAt
  set applicable := v.catalog.entries.filter fun entry => decide (Applies entry key startedAt)
  have hmem : entry ∈ applicable := List.mem_filter.mpr ⟨hentry, decide_eq_true happlies⟩
  have hmem' : other ∈ applicable := List.mem_filter.mpr ⟨hother, decide_eq_true happlies'⟩
  rcases hlist : applicable with _ | ⟨first, _ | ⟨second, rest⟩⟩
  · rw [hlist] at hmem
    cases hmem
  · rw [hlist, List.mem_singleton] at hmem hmem'
    rw [hmem, hmem']
  · rw [hlist] at hlength
    exact absurd hlength (by simp)

/-! ## The rate of a day -/

/-- The day of a rate. -/
def rateDay (rate : Json) : Nat := (readDay (rate.field "rateDate")).getD 0

/-- The rate is the last one on or before the day, and not too old. -/
def RateOn (v : Valuation) (usageDay : Nat) (rate : Json) : Prop :=
  rate ∈ v.fx.rates ∧ rateDay rate ≤ usageDay ∧
    (∀ other ∈ v.fx.rates, rateDay other ≤ usageDay → rateDay other ≤ rateDay rate) ∧
      (usageDay : Int) - rateDay rate ≤ intField v.fx.payload "maxCarryDays"

lemma Listed.rateDay {rate : Json} {date : String} (h : Listed rate date) :
    readDay (rate.field "rateDate") = some (rateDay rate) ∧
      date = IsoDate.isoformat (Usage.rateDay rate) ∧
        Usage.rateDay rate < IsoDate.dayCount := by
  obtain ⟨day, hday, hdate⟩ := h.day
  have heq : Usage.rateDay rate = day := by
    unfold Usage.rateDay
    rw [hday, Option.getD_some]
  rw [heq]
  obtain ⟨s, -, -, hread⟩ := costDay_ok.mp ((@readDay_eq_some _ _ "" _).mp hday)
  exact ⟨hday, hdate, IsoDate.fromisoformat_lt hread⟩

/-- The rates are listed by their days. -/
lemma rates_ascending (fx : DailyReferenceFxLedger) :
    fx.rates.Pairwise fun a b => rateDay a < rateDay b := by
  obtain ⟨-, days, hdays, hsorted⟩ := fx.checked
  generalize fx.rates = rates at hdays
  induction hdays with
  | nil => exact .nil
  | @cons rate date rates dates hrate hrest ih =>
      rw [List.pairwise_cons] at hsorted ⊢
      refine ⟨fun other hother => ?_, ih hsorted.2⟩
      obtain ⟨date', hdate', hother'⟩ := exists_right_of_forall₂ hrest hother
      obtain ⟨-, hdate, hlt⟩ := hrate.rateDay
      obtain ⟨-, hdateOther, hltOther⟩ := hother'.rateDay
      have hless := hsorted.1 date' hdate'
      rw [hdate, hdateOther] at hless
      exact lt_of_not_ge fun hle =>
        absurd ((IsoDate.isoformat_le_iff hltOther hlt).mpr hle) (not_le.mpr hless)

/-- The rate of a day is unique. -/
theorem RateOn.unique {v : Valuation} {usageDay : Nat} {rate other : Json}
    (h : RateOn v usageDay rate) (h' : RateOn v usageDay other) : rate = other := by
  obtain ⟨hmem, hle, hgreatest, -⟩ := h
  obtain ⟨hmem', hle', hgreatest', -⟩ := h'
  have hsame := le_antisymm (hgreatest' rate hmem hle) (hgreatest other hmem' hle')
  have hnodup : (v.fx.rates.map rateDay).Nodup :=
    List.pairwise_map.mpr ((rates_ascending v.fx).imp ne_of_lt)
  exact List.inj_on_of_nodup_map hnodup hmem hmem' hsame

/-- The rate of a day, or a reason why there is none. -/
lemma rateFor_spec (v : Valuation) (usageDay : Nat) :
    (∃ reason, rateFor v usageDay = .ok (.inl reason) ∧ reason ≠ "pricing_entry_ambiguous" ∧
        ∀ rate, ¬ RateOn v usageDay rate) ∨
      ∃ rate, RateOn v usageDay rate ∧ rateFor v usageDay = .ok (.inr (rate, rateDay rate)) := by
  obtain ⟨hitems, days, hdays, -⟩ := v.fx.checked
  have hread : ∀ rate ∈ v.fx.rates, ∀ path,
      costDay (rate.field "rateDate") path = .ok (rateDay rate) := by
    intro rate hrate path
    obtain ⟨date, -, hlisted⟩ := exists_right_of_forall₂ hdays hrate
    exact readDay_eq_some.mp hlisted.rateDay.1
  set earlier := v.fx.rates.filter fun rate => decide (rateDay rate ≤ usageDay) with hearlier
  have hfilter : filterEach (fun rate => do
      let day ← costDay (rate.field "rateDate") "fx.rateDate"
      return decide (day ≤ usageDay)) v.fx.rates = .ok earlier := by
    refine filterEach_ok fun rate hrate => ?_
    rw [hread rate hrate]
    rfl
  have hrates : arrayItems (v.fx.payload.field "rates") "fx.rates must be an array" =
      .ok v.fx.rates := arrayItems_ok.mpr hitems
  rcases hlast : earlier.getLast? with _ | rate
  · left
    have hnone : earlier = [] := List.getLast?_eq_none_iff.mp hlast
    refine ⟨"daily_fx_missing", ?_, by decide, ?_⟩
    · unfold rateFor
      rw [hrates]
      show (filterEach _ _ >>= _) = _
      rw [hfilter, except_ok_bind, hlast]
      rfl
    · rintro rate ⟨hmem, hle, -⟩
      have hin : rate ∈ earlier := List.mem_filter.mpr ⟨hmem, decide_eq_true hle⟩
      rw [hnone] at hin
      cases hin
  · obtain ⟨front, hfront⟩ := List.getLast?_eq_some_iff.mp hlast
    have hin : rate ∈ earlier := by
      rw [hfront]
      exact List.mem_append_right front (List.mem_singleton.mpr rfl)
    obtain ⟨hmem, hle⟩ := List.mem_filter.mp hin
    have hgreatest : ∀ other ∈ v.fx.rates, rateDay other ≤ usageDay →
        rateDay other ≤ rateDay rate := by
      intro other hother hbefore
      have hinOther : other ∈ earlier := List.mem_filter.mpr ⟨hother, decide_eq_true hbefore⟩
      have hsorted : earlier.Pairwise fun a b => rateDay a < rateDay b :=
        (rates_ascending v.fx).sublist List.filter_sublist
      rw [hfront] at hinOther hsorted
      rcases List.mem_append.mp hinOther with hother | hother
      · exact ((List.pairwise_append.mp hsorted).2.2 other hother rate
          (List.mem_singleton.mpr rfl)).le
      · rw [List.mem_singleton.mp hother]
    have hresult : rateFor v usageDay =
        if intField v.fx.payload "maxCarryDays" < (usageDay : Int) - rateDay rate then
          return .inl "daily_fx_stale"
        else return .inr (rate, rateDay rate) := by
      unfold rateFor
      rw [hrates]
      show (filterEach _ _ >>= _) = _
      rw [hfilter, except_ok_bind, hlast]
      dsimp only
      rw [hread rate hmem]
      rfl
    by_cases hold : intField v.fx.payload "maxCarryDays" < (usageDay : Int) - rateDay rate
    · left
      refine ⟨"daily_fx_stale", hresult.trans (if_pos hold), by decide, fun other hother => ?_⟩
      obtain ⟨hmem', hle', hgreatest', hcarry⟩ := hother
      have := hgreatest other hmem' hle'
      omega
    · right
      exact ⟨rate, ⟨hmem, of_decide_eq_true hle, hgreatest, not_lt.mp hold⟩,
        hresult.trans (if_neg hold)⟩

/-! ## The receipt of a call -/

/-- The largest number of digits of an integer that can be written, as a bound. -/
def IsWritten (n : Nat) : Prop := n < 10 ^ maxIntDigits

/-- What the projection relies on in a receipt. -/
structure Readable (receipt : Json) : Prop where
  callId : ∃ s, receipt.field "callId" = .str s
  digest : ∃ s, receipt.field "receiptDigest" = .str s
  startedAt : ∃ t, readTime (receipt.field "startedAt") = some t
  actual : (receipt.field "actual").isObject = true
  usage : (receipt.field "usage").isObject = true
  counts : ∀ field ∈ quantityFields, (receipt.field "usage").field field = .null ∨
    ∃ n : Nat, (receipt.field "usage").field field = .int n ∧ IsWritten n

omit [PythonText] [PythonCalendar] in
lemma isWritable_natCast {n : Nat} : isWritable (.int n) = true ↔ IsWritten n := by
  unfold isWritable IsWritten
  rw [decide_eq_true_eq, Int.natAbs_natCast, Nat.length_toDigits_le_iff (by decide) (by decide)]

omit [PythonText] [PythonCalendar] in
lemma areWritableFields_iff {fields : List (String × Json)} :
    areWritableFields fields = true ↔ ∀ field ∈ fields, isWritable field.2 = true := by
  induction fields with
  | nil => simp [areWritableFields]
  | cons field fields ih =>
      rw [areWritableFields, Bool.and_eq_true, List.forall_mem_cons, ih]

omit [PythonText] [PythonCalendar] in
lemma isWritable_field {value : Json} (h : isWritable value = true) (name : String) :
    isWritable (value.field name) = true := by
  unfold Json.field
  rcases hget : value.get? name with _ | found
  · rfl
  · cases value with
    | obj fields =>
        rw [isWritable, areWritableFields_iff] at h
        obtain ⟨front, rest, rfl, -⟩ := List.lookup_eq_some_iff.mp hget
        exact h (name, found) (List.mem_append_right front List.mem_cons_self)
    | _ => cases hget

omit [PythonText] [PythonCalendar] in
lemma without_field {value : Json} {names : List String} {name : String} (h : name ∉ names) :
    (without names value).field name = value.field name := by
  cases value with
  | obj fields =>
      unfold without Json.field Json.get?
      dsimp only
      congr 1
      induction fields with
      | nil => rfl
      | cons field fields ih =>
          by_cases hname : name = field.1
          · have hkept : field.1 ∉ names := hname ▸ h
            rw [List.filter_cons_of_pos (by simpa using hkept), ← Prod.mk.eta (p := field),
              List.lookup_cons, List.lookup_cons, hname, beq_self_eq_true]
          · have hne : (name == field.1) = false := beq_eq_false_iff_ne.mpr hname
            rw [← Prod.mk.eta (p := field), List.lookup_cons, hne]
            by_cases hkept : field.1 ∉ names
            · rw [List.filter_cons_of_pos (by simpa using hkept), List.lookup_cons, hne]
              exact ih
            · rw [List.filter_cons_of_neg (by simpa using hkept)]
              exact ih
  | _ => rfl

omit [PythonCalendar] in
lemma sha256Digest_ok {value : Json} {digest : String} (h : sha256Digest value = .ok digest) :
    isFinite value = true ∧ isWritable value = true := by
  unfold sha256Digest canonicalJsonBytes at h
  obtain ⟨_, h, -⟩ := except_bind_ok.mp h
  simp only [except_bind_ok, check_ok, exists_const] at h
  exact ⟨h.1, h.2.1⟩

omit [PythonCalendar] in
lemma requiredString_ok {value : Json} {path s : String} {maxLength : Nat}
    (h : requiredString value path maxLength = .ok s) :
    value = .str s ∧ s.toList.all PythonText.isSpace = false := by
  unfold requiredString at h
  obtain ⟨text, htext, h⟩ := except_bind_ok.mp h
  rw [orRaise_ok.mp h] at htext
  unfold nullableString at htext
  cases value with
  | str raw =>
      simp only [except_bind_ok, check_ok, except_pure_ok, exists_const] at htext
      obtain ⟨hblank, -, hraw⟩ := htext
      cases hraw
      exact ⟨rfl, by simpa using hblank⟩
  | _ => cases htext

omit [PythonCalendar] in
lemma readTime_of_timestamp {value : Json} {path : String} {t : Int}
    (h : timestamp value path = .ok t) : readTime value = some t := by
  unfold timestamp at h
  obtain ⟨s, hs, htail⟩ := except_bind_ok.mp h
  obtain ⟨rfl, hblank⟩ := requiredString_ok hs
  refine (@readTime_eq_some _ _ "" _).mpr (costTimestamp_ok.mpr ⟨s, rfl, hblank, ?_⟩)
  cases htime : PythonText.fromisoformat (replaceZulu s) with
  | utc micros =>
      rw [htime] at htail
      rw [except_pure_ok.mp htail]
  | _ =>
      rw [htime] at htail
      cases htail

omit [PythonCalendar] in
lemma validateUsage_counts {usage : Json} (h : validateUsage usage = .ok ())
    (hwritable : isWritable usage = true) : usage.isObject = true ∧
      ∀ field ∈ quantityFields, usage.field field = .null ∨
        ∃ n : Nat, usage.field field = .int n ∧ IsWritten n := by
  simp only [validateUsage, exactKeys, except_bind_ok, check_ok, exists_and_left, exists_const] at h
  obtain ⟨⟨hobject, -⟩, _, hcounts, -⟩ := h
  refine ⟨hobject, fun name hname => ?_⟩
  have hmem : name ∈ countKeys := by
    have hsub : ∀ field ∈ quantityFields, field ∈ countKeys := by decide
    exact hsub name hname
  have hcount := requireEach_ok.mp hcounts name hmem
  have hfield := isWritable_field hwritable name
  unfold present at hcount
  rcases hget : usage.get? name with _ | found
  · left
    unfold Json.field
    rw [hget]
    rfl
  · have heq : usage.field name = found := by
      unfold Json.field
      rw [hget]
      rfl
    rw [hget] at hcount
    rw [heq] at hfield ⊢
    by_cases hnull : found = .null
    · exact .inl hnull
    · right
      split at hcount
      · rename_i count hpresent
        have hsame : found = count := by
          cases found with
          | null => exact absurd rfl hnull
          | _ => exact Option.some.inj hpresent
        obtain ⟨i, hi⟩ := discard_ok.mp hcount
        obtain ⟨hint, hnonneg⟩ := integer_ok.mp hi
        obtain ⟨n, rfl⟩ := Int.eq_ofNat_of_zero_le hnonneg
        rw [hsame, hint] at hfield ⊢
        exact ⟨n, rfl, isWritable_natCast.mp hfield⟩
      · rename_i hpresent
        cases found with
        | null => exact absurd rfl hnull
        | _ => cases hpresent

omit [PythonCalendar] in
/-- An accepted receipt has what the projection reads. -/
lemma readable_of_validate {receipt : Json} (h : validateCallReceipt receipt = .ok ()) :
    Readable receipt := by
  simp only [validateCallReceipt, except_bind_ok, check_ok, exists_and_left, exists_const] at h
  obtain ⟨_, -, -, _, -, _, hdigests, _, hcall, _, -, _, -, _, -, _, -, -, -, t, htime, _, -, -, _,
    -, _, -, _, hactual, _, -, _, husage, -⟩ := h
  simp only [validateDigests, except_bind_ok, check_ok, exists_and_left, exists_const] at hdigests
  obtain ⟨digest, hdigest, -, expected, hexpected, -⟩ := hdigests
  obtain ⟨call, hcall⟩ := discard_ok.mp hcall
  have hwritable := isWritable_field (sha256Digest_ok hexpected).2 "usage"
  rw [without_field (by decide)] at hwritable
  obtain ⟨hobject, hcounts⟩ := validateUsage_counts husage hwritable
  refine ⟨⟨call, (requiredString_ok hcall).1⟩, ⟨digest, (requiredString_ok hdigest).1⟩,
    ⟨t, readTime_of_timestamp htime⟩, ?_, hobject, hcounts⟩
  simp only [exactKeys, except_bind_ok, check_ok, exists_const] at hactual
  exact hactual.1

/-! ## The steps of a projection -/

/-- The four counts are there. -/
def Counted (receipt : Json) : Prop :=
  ∀ field ∈ quantityFields, (receipt.field "usage").field field ≠ .null

/-- **What a projection does.**  It is unavailable if no price applies; it fails if the day in Seoul
is none; it is unavailable without a rate or without counts; and otherwise it is an estimate by the
price and the rate of the call. -/
theorem projectCall_cases {receipt : Json} (h : Readable receipt) (v : Valuation) :
    (∃ reason, reason ≠ "pricing_entry_ambiguous" ∧
        projectCall receipt v = .ok (unavailable receipt v reason) ∧
        ∀ entry, ¬ Selects receipt v entry) ∨
      ∃ entry startedAt, Selects receipt v entry ∧
        readTime (receipt.field "startedAt") = some startedAt ∧
        ((∃ e, seoulDay startedAt = .error e ∧ projectCall receipt v = .error e) ∨
          ∃ day, seoulDay startedAt = .ok day ∧
            ((∃ reason, reason ≠ "pricing_entry_ambiguous" ∧
                projectCall receipt v = .ok (unavailable receipt v reason) ∧
                ∀ rate, RateOn v day rate → ¬ Counted receipt) ∨
              ∃ rate, RateOn v day rate ∧ Counted receipt ∧
                projectCall receipt v = estimate receipt v entry rate (rateDay rate))) := by
  obtain ⟨startedAt, htime⟩ := h.startedAt
  have hitems : arrayItems (v.catalog.payload.field "entries") "pricing.entries must be an array" =
      .ok v.catalog.entries := arrayItems_ok.mpr v.catalog.checked.1
  have hobjects : (!(receipt.field "actual").isObject || !(receipt.field "usage").isObject) =
      false := by
    rw [h.actual, h.usage]
    rfl
  have hnone : ∀ {names : Option (List String)}, selectorOf receipt v = names → names = none →
      ∀ entry, ¬ Selects receipt v entry := by
    rintro names hnames rfl entry ⟨-, key, hkey, -⟩
    rw [hnames] at hkey
    cases hkey
  unfold projectCall
  dsimp only
  rw [hobjects, if_neg Bool.false_ne_true]
  rcases hprovider : nonemptyText ((receipt.field "actual").field "provider") with _ | provider
  · exact .inl ⟨_, by decide, rfl, hnone (by unfold selectorOf; rw [hprovider]; rfl) rfl⟩
  rcases hmodel : nonemptyText ((receipt.field "actual").field "model") with _ | model
  · exact .inl ⟨_, by decide, rfl, hnone (by unfold selectorOf; rw [hprovider, hmodel]; rfl) rfl⟩
  rcases htier : nonemptyText ((receipt.field "usage").field "serviceTier") with _ | tier
  · exact .inl ⟨_, by decide, rfl,
      hnone (by unfold selectorOf; rw [hprovider, hmodel, htier]; rfl) rfl⟩
  have hselector : selectorOf receipt v =
      some [provider, v.apiProduct, model, tier, v.priceScenario] := by
    unfold selectorOf
    rw [hprovider, hmodel, htier]
    rfl
  set key := [provider, v.apiProduct, model, tier, v.priceScenario] with hkey
  set applicable := v.catalog.entries.filter fun entry => decide (Applies entry key startedAt)
    with happlicable
  have hfilter : filterEach (entryApplies · v provider model tier startedAt) v.catalog.entries =
      .ok applicable := by
    obtain ⟨-, checked, hchecked, -⟩ := v.catalog.checked
    refine filterEach_ok fun entry hentry => ?_
    obtain ⟨row, -, hpriced⟩ := exists_right_of_forall₂ hchecked hentry
    exact entryApplies_ok hpriced v provider model tier startedAt
  have hselects : ∀ entry, Selects receipt v entry ↔ entry ∈ applicable := by
    intro entry
    rw [happlicable, List.mem_filter, decide_eq_true_eq]
    constructor
    · rintro ⟨hentry, key', hkey', t, ht, happlies⟩
      rw [hselector] at hkey'
      rw [htime] at ht
      cases hkey'
      cases ht
      exact ⟨hentry, happlies⟩
    · rintro ⟨hentry, happlies⟩
      exact ⟨hentry, key, hselector, startedAt, htime, happlies⟩
  have hlength : applicable.length ≤ 1 := applicable_length v.catalog key startedAt
  dsimp only
  rw [readTime_eq_some.mp htime, hitems]
  simp only [bind, Except.bind, hfilter]
  rcases hlist : applicable with _ | ⟨entry, _ | ⟨second, rest⟩⟩
  · left
    refine ⟨"pricing_entry_missing", by decide, rfl, fun entry hentry => ?_⟩
    have hmem := (hselects entry).mp hentry
    rw [hlist] at hmem
    cases hmem
  · right
    have hselected : Selects receipt v entry := (hselects entry).mpr (by
      rw [hlist]
      exact List.mem_singleton.mpr rfl)
    refine ⟨entry, startedAt, hselected, htime, ?_⟩
    rcases hday : seoulDay startedAt with e | day
    · exact .inl ⟨e, rfl, rfl⟩
    right
    refine ⟨day, rfl, ?_⟩
    dsimp only
    obtain ⟨reason, hrate, hreason, hnorate⟩ | ⟨rate, hon, hrate⟩ := rateFor_spec v day
    · left
      rw [hrate]
      exact ⟨reason, hreason, rfl, fun rate hon => absurd hon (hnorate rate)⟩
    · rw [hrate]
      dsimp only
      by_cases hmissing : quantityFields.filter ((receipt.field "usage").field · = .null) = []
      · right
        rw [if_pos hmissing]
        refine ⟨rate, hon, fun name hname hnull => ?_, rfl⟩
        exact List.filter_eq_nil_iff.mp hmissing name hname (decide_eq_true hnull)
      · left
        rw [if_neg hmissing]
        refine ⟨_, fun heq => ?_, rfl, fun _ _ hcounted => hmissing ?_⟩
        · have hchars := congrArg (fun s => s.toList.head?) heq
          rw [String.toList_append] at hchars
          cases hchars
        · refine List.filter_eq_nil_iff.mpr fun name hname hnull => ?_
          exact hcounted name hname (of_decide_eq_true hnull)
  · rw [hlist] at hlength
    exact absurd hlength (by simp)

end selection

end AgentRuntimeOps.Usage
