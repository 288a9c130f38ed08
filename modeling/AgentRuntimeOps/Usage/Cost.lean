import AgentRuntimeOps.Lib.Decimal
import AgentRuntimeOps.Lib.IsoDate
import AgentRuntimeOps.Usage.Ledger

/-!
# Cost estimates

`domain/usage_cost.py`: a price catalogue, a ledger of daily reference rates, and what one call
costs by them.  A catalogue and a rate ledger are values that carry that they were checked.

`project_call_cost` is a function of its arguments; its result is `unavailable` with a reason where
the call, the price or the rate is not there, and otherwise `complete` or `partial`.
-/

namespace AgentRuntimeOps.Usage

open AgentRuntimeOps.Lib

/-- The tables of the standard library: time zones and digits. -/
class PythonCalendar where
  /-- How far ahead of UTC the clocks of `ZoneInfo("Asia/Seoul")` are at a time, in microseconds. -/
  seoulOffset : Int → Int
  /-- The value of a decimal digit. -/
  decimalDigit : Char → Option Nat

/-- An exception of the `decimal` module. -/
def ofDecimal {α : Type} : Except DecimalError α → Except Raised α
  | .ok a => .ok a
  | .error .invalidOperation => .error (.other "InvalidOperation" "invalid operation")
  | .error .divisionByZero => .error (.other "DivisionByZero" "division by zero")
  | .error .overflow => .error (.other "Overflow" "overflow")

section cost

variable [PythonText] [PythonCalendar]

omit [PythonText] in
/-- `moment.astimezone(KST).date()`, as a number of days since `0001-01-01`. -/
def seoulDay (micros : Int) : Except Raised Nat :=
  let day := (micros + PythonCalendar.seoulOffset micros) / 86400000000 + 719162
  if 0 ≤ day ∧ day < IsoDate.dayCount then return day.toNat
  else throw (.other "OverflowError" "date value out of range")

/-! ## Fields -/

/-- `_digest`. -/
def costDigest (value : Json) : Except Raised String := sha256Digest value

omit [PythonText] [PythonCalendar] in
/-- `_record` and `_exact_fields`; the names are listed in sorted order. -/
def exactFields (value : Json) (fields : List String) (path : String) : Except Raised Unit := do
  check value.isObject (path ++ " must be an object")
  check (value.keys = fields)
    (path ++ " fields mismatch: missing=" ++ nameList (fields.filter (· ∉ value.keys)) ++
      " extra=" ++ nameList (value.keys.filter (· ∉ fields)))

/-- `_text`. -/
def costText (value : Json) (path : String) : Except Raised String :=
  match value with
  | .str s => do
      check (!s.toList.all PythonText.isSpace) (path ++ " must be a nonempty string")
      return s
  | _ => throw (.contract (path ++ " must be a nonempty string"))

/-- `_timestamp`. -/
def costTimestamp (value : Json) (path : String) : Except Raised Int := do
  let raw ← costText value path
  match PythonText.fromisoformat (replaceZulu raw) with
  | .invalid => throw (.contract (path ++ " must be an ISO-8601 timestamp"))
  | .naive => throw (.contract (path ++ " must include a timezone"))
  | .overflow => throw (.other "OverflowError" "date value out of range")
  | .utc micros => return micros

/-- `_day`. -/
def costDay (value : Json) (path : String) : Except Raised Nat := do
  let raw ← costText value path
  orRaise (IsoDate.fromisoformat raw) (.contract (path ++ " must be an ISO date"))

/-- `text.strip()`. -/
def stripText (text : String) : List Char :=
  ((text.toList.dropWhile PythonText.isSpace).reverse.dropWhile PythonText.isSpace).reverse

/-- The number is not negative, and not 0 where it must be positive. -/
def isAllowed (positive : Bool) : Decimal → Bool
  | .finite negative coefficient _ =>
      (!negative || coefficient == 0) && (!positive || coefficient != 0)
  | _ => false

/-- `_decimal`. -/
def costDecimal (value : Json) (path : String) (positive : Bool) : Except Raised Decimal :=
  match value with
  | .str s => do
      let parsed ← orRaise (Decimal.parse PythonCalendar.decimalDigit (stripText s))
        (.contract (path ++ " must be a decimal string"))
      check (isAllowed positive parsed)
        (path ++ " must be " ++ if positive then "positive" else "nonnegative")
      return parsed
  | _ => throw (.contract (path ++ " must be a decimal string"))

/-! ## The catalogue -/

/-- The source of a price. -/
def validateSource (source : Json) (path : String) : Except Raised Unit := do
  exactFields source ["checkedAt", "checkedBy", "url"] path
  discard (costText (source.field "url") (path ++ ".url"))
  discard (costTimestamp (source.field "checkedAt") (path ++ ".checkedAt"))
  discard (costText (source.field "checkedBy") (path ++ ".checkedBy"))

/-- The end of a price's validity is after its start. -/
def validateUntil (value : Json) (start : Int) (path : String) : Except Raised Unit :=
  match value with
  | .null => return ()
  | value => do
      discard (costText value (path ++ ".effectiveUntil"))
      let till ← costTimestamp value (path ++ ".effectiveUntil")
      check (start < till) (path ++ ".effectiveUntil must be after effectiveFrom")

/-- The texts of an array of nonempty strings. -/
def texts? (value : Json) : Option (List String) :=
  match value with
  | .arr items => items.mapM fun item => item.text?.filter (· ≠ "")
  | _ => none

/-- One price; it returns what selects it, and its id. -/
def validateEntry (entry : Json) (path : String) : Except Raised (List String × String) := do
  exactFields entry
    ["actualModel", "apiProduct", "currency", "effectiveFrom", "effectiveUntil", "entryId",
      "meteringProfile", "priceScenario", "provider", "ratesPerMillion", "serviceTier", "source",
      "unpricedComponents"] path
  let entryId ← costText (entry.field "entryId") (path ++ ".entryId")
  let provider ← costText (entry.field "provider") (path ++ ".provider")
  let apiProduct ← costText (entry.field "apiProduct") (path ++ ".apiProduct")
  let model ← costText (entry.field "actualModel") (path ++ ".actualModel")
  let tier ← costText (entry.field "serviceTier") (path ++ ".serviceTier")
  let scenario ← costText (entry.field "priceScenario") (path ++ ".priceScenario")
  check (entry.field "currency" = .str "USD") (path ++ ".currency must be USD")
  check (entry.field "meteringProfile" = .str "gemini-generate-content-v1")
    (path ++ ".meteringProfile is unsupported")
  let start ← costTimestamp (entry.field "effectiveFrom") (path ++ ".effectiveFrom")
  validateUntil (entry.field "effectiveUntil") start path
  let rates := entry.field "ratesPerMillion"
  exactFields rates ["cacheRead", "inputNonCached", "outputIncludingThinking"]
    (path ++ ".ratesPerMillion")
  requireEach
    (fun name =>
      discard (costDecimal (rates.field name) (path ++ ".ratesPerMillion." ++ name) false))
    rates.keys
  let missing ← orRaise (texts? (entry.field "unpricedComponents"))
    (.contract (path ++ ".unpricedComponents must be a string array"))
  check (missing = sortedSet missing) (path ++ ".unpricedComponents must be sorted and unique")
  validateSource (entry.field "source") (path ++ ".source")
  return ([provider, apiProduct, model, tier, scenario], entryId)

/-- `validate_pricing_catalog`; it returns the digest. -/
def validatePricingCatalog (payload : Json) : Except Raised String := do
  exactFields payload ["entries", "publishedAt", "revision", "schema"] "pricing"
  check (payload.field "schema" = .str "jitech-provider-pricing-catalog/v1")
    "pricing.schema must be jitech-provider-pricing-catalog/v1"
  discard (costText (payload.field "revision") "pricing.revision")
  discard (costTimestamp (payload.field "publishedAt") "pricing.publishedAt")
  let entries ← arrayItems (payload.field "entries") "pricing.entries must be an array"
  let checked ← entries.zipIdx.mapM fun entry =>
    validateEntry entry.1 ("pricing.entries[" ++ toString entry.2 ++ "]")
  let entryIds := checked.map Prod.snd
  check (entryIds = sortedSet entryIds) "pricing entries must be unique and ordered by entryId"
  check (checked.map Prod.fst).Nodup "pricing entries contain an ambiguous exact selector"
  costDigest payload

/-- `PricingCatalog` -/
structure PricingCatalog where
  payload : Json
  digest : String
  valid : validatePricingCatalog payload = .ok digest

/-! ## The rates -/

/-- One rate; it returns its date. -/
def validateRate (rate : Json) (path : String) : Except Raised String := do
  exactFields rate ["krwPerEur", "krwPerUsd", "rateDate", "source", "usdPerEur"] path
  let day ← costDay (rate.field "rateDate") (path ++ ".rateDate")
  let usdPerEur ← costDecimal (rate.field "usdPerEur") (path ++ ".usdPerEur") true
  let krwPerEur ← costDecimal (rate.field "krwPerEur") (path ++ ".krwPerEur") true
  let krwPerUsd ← costDecimal (rate.field "krwPerUsd") (path ++ ".krwPerUsd") true
  let quotient ← ofDecimal (Decimal.div krwPerEur usdPerEur)
  let cross ← ofDecimal (Decimal.quantize .halfUp 12 quotient)
  check (Decimal.numericEq krwPerUsd cross)
    (path ++ ".krwPerUsd must equal krwPerEur / usdPerEur at 12 decimals")
  let source := rate.field "source"
  exactFields source ["derivation", "documentSha256", "retrievedAt", "url"] (path ++ ".source")
  discard (costText (source.field "url") (path ++ ".source.url"))
  discard (costTimestamp (source.field "retrievedAt") (path ++ ".source.retrievedAt"))
  let document ← costText (source.field "documentSha256") (path ++ ".source.documentSha256")
  check ("sha256:".toList <+: document.toList)
    (path ++ ".source.documentSha256 must be a sha256 digest")
  check (source.field "derivation" = .str "KRW_per_EUR / USD_per_EUR")
    (path ++ ".source.derivation is unsupported")
  return IsoDate.isoformat day

/-- `validate_fx_ledger`; it returns the digest. -/
def validateFxLedger (payload : Json) : Except Raised String := do
  exactFields payload
    ["baseCurrency", "maxCarryDays", "publishedAt", "quoteCurrency", "rates", "revision", "schema"]
    "fx"
  check (payload.field "schema" = .str "jitech-daily-reference-fx/v1")
    "fx.schema must be jitech-daily-reference-fx/v1"
  discard (costText (payload.field "revision") "fx.revision")
  discard (costTimestamp (payload.field "publishedAt") "fx.publishedAt")
  check (payload.field "baseCurrency" = .str "USD" ∧ payload.field "quoteCurrency" = .str "KRW")
    "fx currencies must be USD/KRW"
  let carry ← match payload.field "maxCarryDays" with
    | .int i => pure i
    | _ => throw (.contract "fx.maxCarryDays must be an integer between 0 and 14")
  check (0 ≤ carry ∧ carry ≤ 14) "fx.maxCarryDays must be an integer between 0 and 14"
  let rates ← arrayItems (payload.field "rates") "fx.rates must be an array"
  let days ← rates.zipIdx.mapM fun rate =>
    validateRate rate.1 ("fx.rates[" ++ toString rate.2 ++ "]")
  check (days = sortedSet days) "fx rates must be unique and ordered by rateDate"
  costDigest payload

/-- `DailyReferenceFxLedger` -/
structure DailyReferenceFxLedger where
  payload : Json
  digest : String
  valid : validateFxLedger payload = .ok digest

/-! ## Projections -/

/-- `estimateStatus`; `incomplete` is written `partial`. -/
inductive EstimateStatus where
  | complete
  | incomplete
  | unavailable
  deriving DecidableEq, Repr

/-- The text of a status. -/
def EstimateStatus.text : EstimateStatus → String
  | complete => "complete"
  | incomplete => "partial"
  | unavailable => "unavailable"

/-- A row of `components`. -/
structure CostComponent where
  kind : String
  quantity : Int
  rate : String
  amount : String

/-- The row as a value. -/
def CostComponent.toJson (row : CostComponent) : Json :=
  .obj [("amountUsd", .str row.amount), ("kind", .str row.kind), ("quantity", .int row.quantity),
    ("rateUsdPerMillion", .str row.rate), ("unit", .str "tokens")]

/-- What a projection says, without its digest. -/
structure Projection where
  callId : Json
  usageReceiptDigest : Json
  status : EstimateStatus
  apiProduct : String
  priceScenario : String
  amountUsd : Option String
  amountKrw : Option String
  pricingEntryId : Json
  catalogDigest : String
  fxDigest : String
  rateDate : Option String
  usdPerEur : Json
  krwPerEur : Json
  krwPerUsd : Option String
  components : List CostComponent
  missing : List String

namespace Projection

/-- The fields before and after the place of the digest. -/
def fields (p : Projection) : List (String × Json) × List (String × Json) :=
  ([("apiProduct", .str p.apiProduct), ("billingReconciliationStatus", .str "not_applicable"),
    ("callId", p.callId), ("components", .arr (p.components.map CostComponent.toJson)),
    ("estimateStatus", .str p.status.text), ("estimatedAmountKrw", .ofOption p.amountKrw),
    ("estimatedAmountUsd", .ofOption p.amountUsd), ("missingComponents", .arr (p.missing.map .str)),
    ("priceScenario", .str p.priceScenario), ("pricingCatalogDigest", .str p.catalogDigest),
    ("pricingEntryId", p.pricingEntryId)],
   [("referenceFxBasis", .str "daily_reference_not_billing"),
    ("referenceFxLedgerDigest", .str p.fxDigest), ("referenceFxRateDate", .ofOption p.rateDate),
    ("referenceKrwPerEur", p.krwPerEur), ("referenceKrwPerUsd", .ofOption p.krwPerUsd),
    ("referenceUsdPerEur", p.usdPerEur),
    ("schema", .str "jitech-provider-operational-cost-estimate/v1"),
    ("usageReceiptDigest", p.usageReceiptDigest), ("valuationKind", .str "operational_estimate")])

/-- The payload that is digested. -/
def payload (p : Projection) : Json := .obj (p.fields.1 ++ p.fields.2)

/-- The value with its `projectionDigest`. -/
def toJson (p : Projection) (digest : String) : Json :=
  .obj (p.fields.1 ++ [("projectionDigest", .str digest)] ++ p.fields.2)

end Projection

/-- What `project_call_cost` is asked for. -/
structure Valuation where
  catalog : PricingCatalog
  fx : DailyReferenceFxLedger
  apiProduct : String
  priceScenario : String

/-- `_unavailable`. -/
def unavailable (receipt : Json) (v : Valuation) (reason : String) : Projection where
  callId := receipt.field "callId"
  usageReceiptDigest := receipt.field "receiptDigest"
  status := .unavailable
  apiProduct := v.apiProduct
  priceScenario := v.priceScenario
  amountUsd := none
  amountKrw := none
  pricingEntryId := .null
  catalogDigest := v.catalog.digest
  fxDigest := v.fx.digest
  rateDate := none
  usdPerEur := .null
  krwPerEur := .null
  krwPerUsd := none
  components := []
  missing := [reason]

/-- A nonempty text. -/
def nonemptyText (value : Json) : Option String := value.text?.filter (· ≠ "")

/-- Whether a price applies to a call that started then. -/
def entryApplies (entry : Json) (v : Valuation) (provider model tier : String) (startedAt : Int) :
    Except Raised Bool := do
  if entry.field "provider" = .str provider ∧ entry.field "apiProduct" = .str v.apiProduct ∧
      entry.field "actualModel" = .str model ∧ entry.field "serviceTier" = .str tier ∧
      entry.field "priceScenario" = .str v.priceScenario then
    let start ← costTimestamp (entry.field "effectiveFrom") "entry.effectiveFrom"
    if startedAt < start then return false
    else
      match entry.field "effectiveUntil" with
      | .null => return true
      | till => do
          let till ← costTimestamp till "entry.effectiveUntil"
          return startedAt < till
  else return false

/-- The items that meet a condition that may raise. -/
def filterEach {α : Type} (p : α → Except Raised Bool) : List α → Except Raised (List α)
  | [] => return []
  | a :: as => do
      let keep ← p a
      let rest ← filterEach p as
      return if keep then a :: rest else rest

/-- The amounts that a call has used, by the names that `quantity_fields` gives them. -/
def quantityFields : List String :=
  ["inputNonCached", "cacheRead", "outputCandidates", "reasoningThinking"]

/-- `Decimal(int(usage[field]))`; a stored receipt has a count there. -/
def quantity (usage : Json) (field : String) : Except Raised Decimal :=
  match usage.field field with
  | .int i => return .ofInt i
  | _ => throw (.other "TypeError" "int() argument must be a number")

/-- One component, and the sum with its exact amount. -/
def costComponent (kind : String) (amount rate sum : Decimal) :
    Except Raised (CostComponent × Decimal) := do
  let product ← ofDecimal (Decimal.mul amount rate)
  let cost ← ofDecimal (Decimal.div product (.ofInt 1000000))
  let sum ← ofDecimal (Decimal.add sum cost)
  let rounded ← ofDecimal (Decimal.quantize .halfUp 12 cost)
  return ({ kind := kind, quantity := amount.toInt, rate := rate.format,
            amount := rounded.format }, sum)

/-- The components of a call, with the amount they add up to. -/
def costComponents (usage rates : Json) : Except Raised (List CostComponent × Decimal) := do
  let input ← quantity usage "inputNonCached"
  let cache ← quantity usage "cacheRead"
  let candidates ← quantity usage "outputCandidates"
  let thinking ← quantity usage "reasoningThinking"
  let inputRate ← costDecimal (rates.field "inputNonCached") "rate.input" false
  let cacheRate ← costDecimal (rates.field "cacheRead") "rate.cache" false
  let output ← ofDecimal (Decimal.add candidates thinking)
  let outputRate ← costDecimal (rates.field "outputIncludingThinking") "rate.output" false
  let (first, sum) ← costComponent "input_non_cached" input inputRate (.ofInt 0)
  let (second, sum) ← costComponent "cache_read" cache cacheRate sum
  let (third, sum) ← costComponent "output_including_thinking" output outputRate sum
  return ([first, second, third], sum)

/-- `sorted(set(…))` of the components that are not priced. -/
def missingComponents (receipt entry : Json) : List String :=
  let unpriced := sortedSet ((texts? (entry.field "unpricedComponents")).getD [])
  if receipt.field "usageCoverage" = .str "complete" then unpriced
  else sortedSet (unpriced ++ ["usage_coverage_incomplete"])

/-- The estimate of a call by one price and one rate. -/
def estimate (receipt : Json) (v : Valuation) (entry rate : Json) (rateDay : Nat) :
    Except Raised Projection := do
  let (components, sum) ←
    costComponents (receipt.field "usage") (entry.field "ratesPerMillion")
  let krwPerUsd ← costDecimal (rate.field "krwPerUsd") "fx.krwPerUsd" true
  let amountUsd ← ofDecimal (Decimal.quantize .halfUp 12 sum)
  let converted ← ofDecimal (Decimal.mul amountUsd krwPerUsd)
  let amountKrw ← ofDecimal (Decimal.quantize .halfUp 4 converted)
  let missing := missingComponents receipt entry
  return {
    callId := receipt.field "callId"
    usageReceiptDigest := receipt.field "receiptDigest"
    status := if missing = [] then .complete else .incomplete
    apiProduct := v.apiProduct
    priceScenario := v.priceScenario
    amountUsd := some amountUsd.format
    amountKrw := some amountKrw.format
    pricingEntryId := entry.field "entryId"
    catalogDigest := v.catalog.digest
    fxDigest := v.fx.digest
    rateDate := some (IsoDate.isoformat rateDay)
    usdPerEur := rate.field "usdPerEur"
    krwPerEur := rate.field "krwPerEur"
    krwPerUsd := some krwPerUsd.format
    components := components
    missing := missing }

/-- The rate for the day of a call, or why there is none. -/
def rateFor (v : Valuation) (usageDay : Nat) : Except Raised (String ⊕ Json × Nat) := do
  let rates ← arrayItems (v.fx.payload.field "rates") "fx.rates must be an array"
  let earlier ← filterEach
    (fun rate => do
      let day ← costDay (rate.field "rateDate") "fx.rateDate"
      return decide (day ≤ usageDay)) rates
  match earlier.getLast? with
  | none => return .inl "daily_fx_missing"
  | some rate => do
      let day ← costDay (rate.field "rateDate") "fx.rateDate"
      if intField v.fx.payload "maxCarryDays" < (usageDay : Int) - day then
        return .inl "daily_fx_stale"
      else return .inr (rate, day)

/-- `project_call_cost`, without the digest. -/
def projectCall (receipt : Json) (v : Valuation) : Except Raised Projection := do
  let actual := receipt.field "actual"
  let usage := receipt.field "usage"
  if !actual.isObject || !usage.isObject then
    return unavailable receipt v "usage_receipt_invalid"
  else
    match nonemptyText (actual.field "provider"), nonemptyText (actual.field "model"),
        nonemptyText (usage.field "serviceTier") with
    | some provider, some model, some tier => do
        let startedAt ← costTimestamp (receipt.field "startedAt") "receipt.startedAt"
        let entries ← arrayItems (v.catalog.payload.field "entries")
          "pricing.entries must be an array"
        let applicable ←
          filterEach (entryApplies · v provider model tier startedAt) entries
        match applicable with
        | [] => return unavailable receipt v "pricing_entry_missing"
        | [entry] => do
            let usageDay ← seoulDay startedAt
            match ← rateFor v usageDay with
            | .inl reason => return unavailable receipt v reason
            | .inr (rate, day) =>
                let missing := quantityFields.filter (usage.field · = .null)
                if missing = [] then estimate receipt v entry rate day
                else return unavailable receipt v ("usage_fields_missing:" ++
                  String.intercalate "," (missing.mergeSort fun a b => decide (a ≤ b)))
        | _ => return unavailable receipt v "pricing_entry_ambiguous"
    | _, _, _ => return unavailable receipt v "actual_model_or_tier_unavailable"

/-- `project_call_cost`, with the digest. -/
def projectCallCost (receipt : Json) (v : Valuation) : Except Raised (Projection × String) := do
  let projection ← projectCall receipt v
  let digest ← costDigest projection.payload
  return (projection, digest)

end cost

end AgentRuntimeOps.Usage
