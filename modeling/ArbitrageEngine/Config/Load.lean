import ArbitrageEngine.Risk.Manager

/-!
# Loading and reloading the configuration

`config.Load` reads the YAML file with viper, gives thirteen keys a default with `SetDefault`,
decodes the file into `Config` and validates the result with the struct tags of
`go-playground/validator`. `WatchAndReload` builds a second viper on the same file, with no
default, and on every change decodes and validates again; a valid reload replaces the stored
configuration and logs what changed.

The model takes the file as decoded (`RawConfig`, with `none` for a key the file leaves out that
has a default) and the decoder's errors as data. The validator is one table per section: each
field with its value and the tags of its struct tag, in the order of the struct
(`SystemConfig.fields` and its siblings). `traverseField` walks a field's tags and reports the
first that fails, one error per field, under the field's namespace (`firstFailure`,
`fieldErrors`).

What the table accepts is exactly a configuration with every bound of its tags
(`Config.errors_eq_nil_iff`). Every default of `Load` passes its own check, so the validation of
`Load` never names a key left to its default (`load_errors_not_leftOut`). The watcher decodes with
the Go zero values instead, which fail the checks of those keys: a file that relies on a default
of a checked key loads, but every reload of it is rejected (`reload_rejects_leftOut`).
-/

set_option autoImplicit false

namespace ArbitrageEngine.Configuration

/-! ## The configuration -/

/-- `config.SystemConfig`. -/
structure SystemConfig where
  instanceID : String
  tradingMode : String
  requireLiveConfirmation : Bool
  logLevel : String
  timezone : String

/-- `config.VenueConfig`, without the rate limits and the symbols, which nothing validates (the
map has no `dive`) or reads. -/
structure VenueConfig where
  enabled : Bool
  wsURL : String
  restURL : String

/-- `config.TriArbConfig`. -/
structure TriArbConfig where
  enabled : Bool
  minEdgeBps : ℤ
  feeEstimateBps : ℤ
  slippageBufferBps : ℤ
  executionRiskBufferBps : ℤ
  fillTimeoutMs : ℤ
  maxRetries : ℤ

/-- `config.BasisArbConfig`. -/
structure BasisArbConfig where
  enabled : Bool
  minNetEdgeBps : ℤ
  feeEstimateBps : ℤ
  slippageBufferBps : ℤ
  fundingUncertaintyBufferBps : ℤ
  transferCostAmortizationBps : ℤ
  fillTimeoutMs : ℤ
  holdingHorizonHours : ℤ

/-- `config.StrategiesConfig`. -/
structure StrategiesConfig where
  triangularArb : TriArbConfig
  basisArb : BasisArbConfig

/-- `config.DataFreshnessConfig`. -/
structure DataFreshnessConfig where
  warningMs : ℤ
  blockMs : ℤ

/-- `config.ReconciliationConfig`; the `float64` threshold is a rational. -/
structure ReconciliationConfig where
  intervalSeconds : ℤ
  mismatchThresholdPct : ℚ

/-- `config.RiskConfig`; a map is `none` when the file leaves it out, a nil map. -/
structure RiskConfig where
  maxPosition : Option (List (String × Decimal))
  maxNotionalPerVenue : Option (List (String × Decimal))
  dailyLossCapUSDT : Decimal
  warningThresholdPct : ℤ
  maxOpenOrders : Risk.MaxOpenOrdersConfig
  dataFreshness : DataFreshnessConfig
  reconciliation : ReconciliationConfig
  checkpointIntervalS : ℤ

/-- `config.CostModelConfig`. -/
structure CostModelConfig where
  slippageCurveLookbackFills : ℤ
  feeTierRefreshIntervalS : ℤ
  fundingRateLookbackIntervals : ℤ

/-- `config.MetricsConfig`. -/
structure MetricsConfig where
  flushIntervalS : ℤ
  ingestionDelaySLAS : ℤ

/-- `config.AlertingConfig`. -/
structure AlertingConfig where
  deliveryDelaySLAS : ℤ
  p1AckSLAMinutes : ℤ
  p1MitigationSLAMinutes : ℤ
  channels : List String

/-- `config.MonitoringConfig`, without the logging section, which nothing validates or reads. -/
structure MonitoringConfig where
  metrics : MetricsConfig
  alerting : AlertingConfig

/-- `config.DryRunConfig`; the `float64` reject rate is a rational. -/
structure DryRunConfig where
  initialCapitalUSDT : Decimal
  simulatedLatencyMs : ℤ
  rejectRatePct : ℚ
  useLiveSlippageModel : Bool
  persistToSeparateTable : Bool

/-- `config.PersistenceConfig`. -/
structure PersistenceConfig where
  checkpointDB : String
  coldStoreDSN : String
  coldStorePoolSize : ℤ
  tradeLogRetentionDays : ℤ

/-- `config.RuntimeConfig`. -/
structure RuntimeConfig where
  goMaxProcs : ℤ
  gogc : ℤ
  goMemLimit : String

/-- `config.Config`; the venues map is `none` when the file leaves it out, and otherwise lists its
entries in iteration order. -/
structure Config where
  system : SystemConfig
  venues : Option (List (String × VenueConfig))
  strategies : StrategiesConfig
  risk : RiskConfig
  costModel : CostModelConfig
  monitoring : MonitoringConfig
  dryRun : DryRunConfig
  persistence : PersistenceConfig
  runtime : RuntimeConfig

/-- The risk section as the risk manager reads it: a missing map entry is no cap. -/
def RiskConfig.toRisk (c : RiskConfig) : Risk.RiskConfig :=
  ⟨fun asset => (c.maxPosition.getD []).lookup asset,
    fun venue => (c.maxNotionalPerVenue.getD []).lookup venue, c.dailyLossCapUSDT,
    c.warningThresholdPct, c.maxOpenOrders⟩

/-! ## The file and the defaults -/

/-- The system section as the file gives it: `none` for a key with a default the file leaves
out. -/
structure RawSystem where
  instanceID : String
  tradingMode : String
  requireLiveConfirmation : Option Bool
  logLevel : Option String
  timezone : Option String

/-- The dry-run section as the file gives it. -/
structure RawDryRun where
  initialCapitalUSDT : Option Decimal
  simulatedLatencyMs : Option ℤ
  rejectRatePct : Option ℚ
  useLiveSlippageModel : Option Bool
  persistToSeparateTable : Option Bool

/-- The persistence section as the file gives it. -/
structure RawPersistence where
  checkpointDB : String
  coldStoreDSN : String
  coldStorePoolSize : Option ℤ
  tradeLogRetentionDays : Option ℤ

/-- The runtime section as the file gives it. -/
structure RawRuntime where
  goMaxProcs : Option ℤ
  gogc : Option ℤ
  goMemLimit : Option String

/-- The file as decoded. A key without a default that the file leaves out already holds its Go
zero value. -/
structure RawConfig where
  system : RawSystem
  venues : Option (List (String × VenueConfig))
  strategies : StrategiesConfig
  risk : RiskConfig
  costModel : CostModelConfig
  monitoring : MonitoringConfig
  dryRun : RawDryRun
  persistence : RawPersistence
  runtime : RawRuntime

/-- What the decoder gives the keys with a default when the file leaves them out. -/
structure Defaults where
  logLevel : String
  timezone : String
  requireLiveConfirmation : Bool
  goMaxProcs : ℤ
  gogc : ℤ
  goMemLimit : String
  coldStorePoolSize : ℤ
  tradeLogRetentionDays : ℤ
  initialCapitalUSDT : Decimal
  simulatedLatencyMs : ℤ
  rejectRatePct : ℚ
  useLiveSlippageModel : Bool
  persistToSeparateTable : Bool

/-- The `SetDefault` calls of `Load`. -/
def loadDefaults : Defaults :=
  ⟨"INFO", "UTC", true, 0, 400, "2GiB", 10, 30, 100000, 50, 0, true, true⟩

/-- The Go zero values, which the watcher's viper gives the same keys: it sets no default. -/
def zeroValues : Defaults := ⟨"", "", false, 0, 0, "", 0, 0, 0, 0, 0, false, false⟩

/-- `Unmarshal` with the given defaults. -/
def RawConfig.unmarshal (d : Defaults) (raw : RawConfig) : Config where
  system := ⟨raw.system.instanceID, raw.system.tradingMode,
    raw.system.requireLiveConfirmation.getD d.requireLiveConfirmation,
    raw.system.logLevel.getD d.logLevel, raw.system.timezone.getD d.timezone⟩
  venues := raw.venues
  strategies := raw.strategies
  risk := raw.risk
  costModel := raw.costModel
  monitoring := raw.monitoring
  dryRun := ⟨raw.dryRun.initialCapitalUSDT.getD d.initialCapitalUSDT,
    raw.dryRun.simulatedLatencyMs.getD d.simulatedLatencyMs,
    raw.dryRun.rejectRatePct.getD d.rejectRatePct,
    raw.dryRun.useLiveSlippageModel.getD d.useLiveSlippageModel,
    raw.dryRun.persistToSeparateTable.getD d.persistToSeparateTable⟩
  persistence := ⟨raw.persistence.checkpointDB, raw.persistence.coldStoreDSN,
    raw.persistence.coldStorePoolSize.getD d.coldStorePoolSize,
    raw.persistence.tradeLogRetentionDays.getD d.tradeLogRetentionDays⟩
  runtime := ⟨raw.runtime.goMaxProcs.getD d.goMaxProcs, raw.runtime.gogc.getD d.gogc,
    raw.runtime.goMemLimit.getD d.goMemLimit⟩

/-! ## The validator -/

/-- A field's value as the validator sees it: a number, a string, a map (nil or not), or a
non-pointer struct such as `decimal.Decimal`. -/
inductive FieldValue where
  | int (n : ℤ)
  | float (x : ℚ)
  | str (s : String)
  | map (isNil : Bool)
  | struct

/-- `hasValue`: a value other than the zero value of its type, a map other than nil. -/
def FieldValue.hasValue : FieldValue → Bool
  | .int n => n ≠ 0
  | .float x => x ≠ 0
  | .str s => s ≠ ""
  | .map isNil => !isNil
  | .struct => true

/-- The tags the configuration's struct tags use; `requiredIf` carries whether its condition,
`Enabled true`, holds. -/
inductive Tag where
  | required
  | requiredIf (cond : Bool)
  | omitempty
  | gt (n : ℤ)
  | gte (n : ℤ)
  | lte (n : ℤ)
  | oneof (values : List String)
  | url

/-- The tag's name, as an error reports it. -/
def Tag.name : Tag → String
  | .required => "required"
  | .requiredIf _ => "required_if"
  | .omitempty => "omitempty"
  | .gt _ => "gt"
  | .gte _ => "gte"
  | .lte _ => "lte"
  | .oneof _ => "oneof"
  | .url => "url"

/-- The check of a tag on a value; `isURL` is the library's URL parser. The configuration puts
no tag on a value of another kind. -/
def Tag.check (isURL : String → Bool) : Tag → FieldValue → Bool
  | .required, v => v.hasValue
  | .requiredIf cond, v => !cond || v.hasValue
  | .omitempty, _ => true
  | .gt n, .int m => decide (n < m)
  | .gt n, .float x => decide ((n : ℚ) < x)
  | .gte n, .int m => decide (n ≤ m)
  | .lte n, .int m => decide (m ≤ n)
  | .oneof values, .str s => decide (s ∈ values)
  | .url, .str s => isURL s
  | _, _ => false

/-- The first tag of a chain that fails, as `traverseField` walks it: `omitempty` on a value
without one ends the walk. -/
def firstFailure (isURL : String → Bool) (v : FieldValue) : List Tag → Option Tag
  | [] => none
  | .omitempty :: tags => if v.hasValue then firstFailure isURL v tags else none
  | t :: tags => if t.check isURL v then firstFailure isURL v tags else some t

/-- A field of a section, with its value and the tags of its struct tag. -/
structure Field where
  name : String
  value : FieldValue
  tags : List Tag

/-- The chain `traverseField` walks: it drops a leading `required` on a non-pointer struct. -/
def Field.chain (f : Field) : List Tag :=
  match f.value, f.tags with
  | .struct, .required :: tags => tags
  | _, tags => tags

/-- A step of a namespace: a field's name, or the key of a map entry. -/
inductive Segment where
  | field (name : String)
  | key (k : String)
  deriving DecidableEq

/-- `FieldError`: the namespace of the field (the key its message prints), its name and the
failing tag. -/
structure FieldError where
  key : List Segment
  field : String
  tag : String

/-- A namespace as the validator prints it: `Config.Venues[kcex].WsURL`. -/
def renderNamespace : List Segment → String
  | [] => ""
  | .field name :: rest => name ++ (rest.map fun
      | .field n => "." ++ n
      | .key k => "[" ++ k ++ "]").foldr (· ++ ·) ""
  | .key k :: rest => ("[" ++ k ++ "]") ++ renderNamespace rest

/-- `FieldError.Error`. -/
def FieldError.message (e : FieldError) : String :=
  "Key: \x27" ++ renderNamespace e.key ++ "\x27 Error:Field validation for \x27" ++ e.field ++
    "\x27 failed on the \x27" ++ e.tag ++ "\x27 tag"

/-- `ValidationErrors.Error`: one line per field. -/
def validationMessage (errs : List FieldError) : String :=
  "\n".intercalate (errs.map FieldError.message)

/-- The errors of a section's fields under the section's namespace, in the fields' order. -/
def fieldErrors (isURL : String → Bool) (ns : List Segment) (fields : List Field) :
    List FieldError :=
  fields.filterMap fun f =>
    (firstFailure isURL f.value f.chain).map fun t => ⟨ns ++ [.field f.name], f.name, t.name⟩

/-- The fields and tags of `SystemConfig`. -/
def SystemConfig.fields (s : SystemConfig) : List Field :=
  [⟨"InstanceID", .str s.instanceID, [.required]⟩,
    ⟨"TradingMode", .str s.tradingMode, [.required, .oneof ["live", "dry_run", "backtest"]]⟩,
    ⟨"LogLevel", .str s.logLevel, [.required, .oneof ["DEBUG", "INFO", "WARN", "ERROR", "FATAL"]]⟩,
    ⟨"Timezone", .str s.timezone, [.required]⟩]

/-- The fields and tags of `VenueConfig`. -/
def VenueConfig.fields (v : VenueConfig) : List Field :=
  [⟨"WsURL", .str v.wsURL, [.requiredIf v.enabled, .omitempty, .url]⟩,
    ⟨"RestURL", .str v.restURL, [.requiredIf v.enabled, .omitempty, .url]⟩]

/-- The fields and tags of `TriArbConfig`. -/
def TriArbConfig.fields (c : TriArbConfig) : List Field :=
  [⟨"MinEdgeBps", .int c.minEdgeBps, [.gt 0]⟩,
    ⟨"FeeEstimateBps", .int c.feeEstimateBps, [.gte 0]⟩,
    ⟨"SlippageBufferBps", .int c.slippageBufferBps, [.gte 0]⟩,
    ⟨"ExecutionRiskBufferBps", .int c.executionRiskBufferBps, [.gte 0]⟩,
    ⟨"FillTimeoutMs", .int c.fillTimeoutMs, [.gt 0]⟩,
    ⟨"MaxRetries", .int c.maxRetries, [.gte 0]⟩]

/-- The fields and tags of `BasisArbConfig`. -/
def BasisArbConfig.fields (c : BasisArbConfig) : List Field :=
  [⟨"MinNetEdgeBps", .int c.minNetEdgeBps, [.gt 0]⟩,
    ⟨"FeeEstimateBps", .int c.feeEstimateBps, [.gte 0]⟩,
    ⟨"SlippageBufferBps", .int c.slippageBufferBps, [.gte 0]⟩,
    ⟨"FundingUncertaintyBufferBps", .int c.fundingUncertaintyBufferBps, [.gte 0]⟩,
    ⟨"TransferCostAmortizationBps", .int c.transferCostAmortizationBps, [.gte 0]⟩,
    ⟨"FillTimeoutMs", .int c.fillTimeoutMs, [.gt 0]⟩,
    ⟨"HoldingHorizonHours", .int c.holdingHorizonHours, [.gt 0]⟩]

/-- The direct fields of `RiskConfig` before its nested sections. -/
def RiskConfig.fields (c : RiskConfig) : List Field :=
  [⟨"MaxPosition", .map c.maxPosition.isNone, [.required]⟩,
    ⟨"MaxNotionalPerVenue", .map c.maxNotionalPerVenue.isNone, [.required]⟩,
    ⟨"DailyLossCapUSDT", .struct, [.required]⟩,
    ⟨"WarningThresholdPct", .int c.warningThresholdPct, [.required, .gt 0, .lte 100]⟩]

/-- The fields and tags of `MaxOpenOrdersConfig`. -/
def maxOpenOrdersFields (c : Risk.MaxOpenOrdersConfig) : List Field :=
  [⟨"Global", .int c.global, [.required, .gt 0]⟩,
    ⟨"PerVenue", .int c.perVenue, [.required, .gt 0]⟩,
    ⟨"PerSymbol", .int c.perSymbol, [.required, .gt 0]⟩]

/-- The fields and tags of `DataFreshnessConfig`. -/
def DataFreshnessConfig.fields (c : DataFreshnessConfig) : List Field :=
  [⟨"WarningMs", .int c.warningMs, [.required, .gt 0]⟩,
    ⟨"BlockMs", .int c.blockMs, [.required, .gt 0]⟩]

/-- The fields and tags of `ReconciliationConfig`. -/
def ReconciliationConfig.fields (c : ReconciliationConfig) : List Field :=
  [⟨"IntervalSeconds", .int c.intervalSeconds, [.required, .gt 0]⟩,
    ⟨"MismatchThresholdPct", .float c.mismatchThresholdPct, [.required, .gt 0]⟩]

/-- The fields and tags of `CostModelConfig`. -/
def CostModelConfig.fields (c : CostModelConfig) : List Field :=
  [⟨"SlippageCurveLookbackFills", .int c.slippageCurveLookbackFills, [.required, .gt 0]⟩,
    ⟨"FeeTierRefreshIntervalS", .int c.feeTierRefreshIntervalS, [.required, .gt 0]⟩,
    ⟨"FundingRateLookbackIntervals", .int c.fundingRateLookbackIntervals, [.required, .gt 0]⟩]

/-- The fields and tags of `MetricsConfig`. -/
def MetricsConfig.fields (c : MetricsConfig) : List Field :=
  [⟨"FlushIntervalS", .int c.flushIntervalS, [.gt 0]⟩,
    ⟨"IngestionDelaySLAS", .int c.ingestionDelaySLAS, [.gt 0]⟩]

/-- The fields and tags of `AlertingConfig`. -/
def AlertingConfig.fields (c : AlertingConfig) : List Field :=
  [⟨"DeliveryDelaySLAS", .int c.deliveryDelaySLAS, [.gt 0]⟩,
    ⟨"P1AckSLAMinutes", .int c.p1AckSLAMinutes, [.gt 0]⟩,
    ⟨"P1MitigationSLAMinutes", .int c.p1MitigationSLAMinutes, [.gt 0]⟩]

/-- The fields and tags of `PersistenceConfig`. -/
def PersistenceConfig.fields (c : PersistenceConfig) : List Field :=
  [⟨"CheckpointDB", .str c.checkpointDB, [.required]⟩,
    ⟨"ColdStorePoolSize", .int c.coldStorePoolSize, [.gt 0]⟩,
    ⟨"TradeLogRetentionDays", .int c.tradeLogRetentionDays, [.gt 0]⟩]

/-- The risk section's direct fields around its nested sections, in the order of the struct. -/
def RiskConfig.sections (c : RiskConfig) : List (List Segment × List Field) :=
  [([.field "Config", .field "Risk"], c.fields),
    ([.field "Config", .field "Risk", .field "MaxOpenOrders"], maxOpenOrdersFields c.maxOpenOrders),
    ([.field "Config", .field "Risk", .field "DataFreshness"], c.dataFreshness.fields),
    ([.field "Config", .field "Risk", .field "Reconciliation"], c.reconciliation.fields),
    ([.field "Config", .field "Risk"],
      [⟨"CheckpointIntervalS", .int c.checkpointIntervalS, [.required, .gt 0]⟩])]

/-- The sections `validate.Struct` visits, with their namespaces, in the order of `Config`: the
venues map's own field, then each entry it dives into (none for a nil map). The dry-run and
runtime sections carry no tag. -/
def Config.sections (cfg : Config) : List (List Segment × List Field) :=
  [([.field "Config", .field "System"], cfg.system.fields),
    ([.field "Config"], [⟨"Venues", .map cfg.venues.isNone, [.required]⟩])] ++
  (cfg.venues.getD []).map (fun e => ([.field "Config", .field "Venues", .key e.1], e.2.fields)) ++
  [([.field "Config", .field "Strategies", .field "TriangularArb"],
      cfg.strategies.triangularArb.fields),
    ([.field "Config", .field "Strategies", .field "BasisArb"], cfg.strategies.basisArb.fields)] ++
  cfg.risk.sections ++
  [([.field "Config", .field "CostModel"], cfg.costModel.fields),
    ([.field "Config", .field "Monitoring", .field "Metrics"], cfg.monitoring.metrics.fields),
    ([.field "Config", .field "Monitoring", .field "Alerting"], cfg.monitoring.alerting.fields),
    ([.field "Config", .field "Persistence"], cfg.persistence.fields)]

/-- `validate.Struct`: the errors of every section, in order. -/
def Config.errors (isURL : String → Bool) (cfg : Config) : List FieldError :=
  cfg.sections.flatMap fun sec => fieldErrors isURL sec.1 sec.2

/-! ## What the validator accepts -/

section Valid

variable (isURL : String → Bool)

@[simp] theorem FieldValue.hasValue_int (n : ℤ) : (FieldValue.int n).hasValue = true ↔ n ≠ 0 := by
  simp [FieldValue.hasValue]

@[simp] theorem FieldValue.hasValue_float (x : ℚ) : (FieldValue.float x).hasValue = true ↔ x ≠ 0 := by
  simp [FieldValue.hasValue]

@[simp] theorem FieldValue.hasValue_str (s : String) :
    (FieldValue.str s).hasValue = true ↔ s ≠ "" := by
  simp [FieldValue.hasValue]

@[simp] theorem FieldValue.hasValue_map (isNil : Bool) : (FieldValue.map isNil).hasValue = !isNil :=
  rfl

@[simp] theorem Tag.check_required (v : FieldValue) : Tag.required.check isURL v = v.hasValue := rfl

@[simp] theorem Tag.check_requiredIf (cond : Bool) (v : FieldValue) :
    (Tag.requiredIf cond).check isURL v = true ↔ (cond = true → v.hasValue = true) := by
  cases cond <;> simp [Tag.check]

@[simp] theorem Tag.check_gt_int (n m : ℤ) : (Tag.gt n).check isURL (.int m) = true ↔ n < m := by
  simp [Tag.check]

@[simp] theorem Tag.check_gt_float (n : ℤ) (x : ℚ) :
    (Tag.gt n).check isURL (.float x) = true ↔ (n : ℚ) < x := by
  simp [Tag.check]

@[simp] theorem Tag.check_gte_int (n m : ℤ) : (Tag.gte n).check isURL (.int m) = true ↔ n ≤ m := by
  simp [Tag.check]

@[simp] theorem Tag.check_lte_int (n m : ℤ) : (Tag.lte n).check isURL (.int m) = true ↔ m ≤ n := by
  simp [Tag.check]

@[simp] theorem Tag.check_oneof_str (values : List String) (s : String) :
    (Tag.oneof values).check isURL (.str s) = true ↔ s ∈ values := by
  simp [Tag.check]

@[simp] theorem Tag.check_url_str (s : String) : Tag.url.check isURL (.str s) = isURL s := rfl

@[simp] theorem firstFailure_nil (v : FieldValue) : firstFailure isURL v [] = none := rfl

/-- A tag other than `omitempty` passes, and so does the rest of the chain. -/
theorem firstFailure_cons_eq_none {t : Tag} (ht : t ≠ .omitempty) (v : FieldValue)
    (tags : List Tag) :
    firstFailure isURL v (t :: tags) = none ↔
      t.check isURL v = true ∧ firstFailure isURL v tags = none := by
  cases t <;> first | exact absurd rfl ht | (simp only [firstFailure]; split_ifs <;> simp_all)

theorem firstFailure_omitempty_eq_none (v : FieldValue) (tags : List Tag) :
    firstFailure isURL v (.omitempty :: tags) = none ↔
      (v.hasValue = true → firstFailure isURL v tags = none) := by
  simp only [firstFailure]
  split_ifs <;> simp_all

theorem FieldValue.hasValue_of_check_gt {v : FieldValue} {n : ℤ} (hn : 0 ≤ n)
    (h : (Tag.gt n).check isURL v = true) : v.hasValue = true := by
  cases v with
  | int m => simp only [Tag.check_gt_int] at h; simp only [FieldValue.hasValue_int]; omega
  | float x =>
    simp only [Tag.check_gt_float] at h
    exact (FieldValue.hasValue_float x).mpr (ne_of_gt (lt_of_le_of_lt (Int.cast_nonneg.mpr hn) h))
  | _ => simp [Tag.check] at h

/-- `required` before `gt` with a bound of at least zero adds nothing. -/
theorem firstFailure_required_gt_eq_none {v : FieldValue} {n : ℤ} (hn : 0 ≤ n) (tags : List Tag) :
    firstFailure isURL v (.required :: .gt n :: tags) = none ↔
      (Tag.gt n).check isURL v = true ∧ firstFailure isURL v tags = none := by
  rw [firstFailure_cons_eq_none isURL (by simp), firstFailure_cons_eq_none isURL (by simp),
    Tag.check_required]
  exact ⟨And.right, fun h => ⟨v.hasValue_of_check_gt isURL hn h.1, h⟩⟩

/-- `required` before `oneof` of non-empty values adds nothing. -/
theorem firstFailure_required_oneof_eq_none {v : FieldValue} {values : List String}
    (hv : "" ∉ values) (tags : List Tag) :
    firstFailure isURL v (.required :: .oneof values :: tags) = none ↔
      (Tag.oneof values).check isURL v = true ∧ firstFailure isURL v tags = none := by
  rw [firstFailure_cons_eq_none isURL (by simp), firstFailure_cons_eq_none isURL (by simp),
    Tag.check_required]
  refine ⟨And.right, fun h => ⟨?_, h⟩⟩
  cases v with
  | str s =>
    exact (FieldValue.hasValue_str s).mpr fun he =>
      hv (he ▸ (Tag.check_oneof_str isURL _ _).mp h.1)
  | _ => simp [Tag.check] at h

/-- Every field of a list passes its tags. -/
def Passes (fields : List Field) : Prop :=
  ∀ f ∈ fields, firstFailure isURL f.value f.chain = none

theorem fieldErrors_eq_nil_iff (ns : List Segment) (fields : List Field) :
    fieldErrors isURL ns fields = [] ↔ Passes isURL fields := by
  simp [fieldErrors, List.filterMap_eq_nil_iff, Passes]

/-- **Every error names the field it checks.** An error of a section is one of its fields, under
the section's namespace, with the first tag of its chain that fails. -/
theorem mem_fieldErrors {ns : List Segment} {fields : List Field} {e : FieldError} :
    e ∈ fieldErrors isURL ns fields ↔ ∃ f ∈ fields, ∃ t,
      firstFailure isURL f.value f.chain = some t ∧ e = ⟨ns ++ [.field f.name], f.name, t.name⟩ := by
  simp only [fieldErrors, List.mem_filterMap, Option.map_eq_some']
  exact exists_congr fun f => and_congr_right fun _ => exists_congr fun t =>
    and_congr_right fun _ => eq_comm

theorem Config.mem_errors {cfg : Config} {e : FieldError} :
    e ∈ cfg.errors isURL ↔ ∃ sec ∈ cfg.sections, ∃ f ∈ sec.2, ∃ t,
      firstFailure isURL f.value f.chain = some t ∧ e = ⟨sec.1 ++ [.field f.name], f.name, t.name⟩ := by
  simp only [Config.errors, List.mem_flatMap, mem_fieldErrors]

/-- A system section that every tag of it accepts. -/
@[mk_iff] structure SystemConfig.Valid (s : SystemConfig) : Prop where
  instanceID_ne : s.instanceID ≠ ""
  tradingMode_mem : s.tradingMode ∈ ["live", "dry_run", "backtest"]
  logLevel_mem : s.logLevel ∈ ["DEBUG", "INFO", "WARN", "ERROR", "FATAL"]
  timezone_ne : s.timezone ≠ ""

/-- A venue entry that its tags accept: an enabled venue has both URLs, and a URL given is one. -/
@[mk_iff] structure VenueConfig.Valid (v : VenueConfig) : Prop where
  wsURL_required : v.enabled = true → v.wsURL ≠ ""
  wsURL_url : v.wsURL ≠ "" → isURL v.wsURL = true
  restURL_required : v.enabled = true → v.restURL ≠ ""
  restURL_url : v.restURL ≠ "" → isURL v.restURL = true

/-- A triangular-arbitrage section that its tags accept. -/
@[mk_iff] structure TriArbConfig.Valid (c : TriArbConfig) : Prop where
  minEdgeBps_pos : 0 < c.minEdgeBps
  feeEstimateBps_nonneg : 0 ≤ c.feeEstimateBps
  slippageBufferBps_nonneg : 0 ≤ c.slippageBufferBps
  executionRiskBufferBps_nonneg : 0 ≤ c.executionRiskBufferBps
  fillTimeoutMs_pos : 0 < c.fillTimeoutMs
  maxRetries_nonneg : 0 ≤ c.maxRetries

/-- A basis-arbitrage section that its tags accept. -/
@[mk_iff] structure BasisArbConfig.Valid (c : BasisArbConfig) : Prop where
  minNetEdgeBps_pos : 0 < c.minNetEdgeBps
  feeEstimateBps_nonneg : 0 ≤ c.feeEstimateBps
  slippageBufferBps_nonneg : 0 ≤ c.slippageBufferBps
  fundingUncertaintyBufferBps_nonneg : 0 ≤ c.fundingUncertaintyBufferBps
  transferCostAmortizationBps_nonneg : 0 ≤ c.transferCostAmortizationBps
  fillTimeoutMs_pos : 0 < c.fillTimeoutMs
  holdingHorizonHours_pos : 0 < c.holdingHorizonHours

/-- A risk section, with its nested sections, that its tags accept. The daily loss cap is a
non-pointer struct, so nothing checks it. -/
@[mk_iff] structure RiskConfig.Valid (c : RiskConfig) : Prop where
  maxPosition_isSome : c.maxPosition.isSome
  maxNotionalPerVenue_isSome : c.maxNotionalPerVenue.isSome
  warningThresholdPct_pos : 0 < c.warningThresholdPct
  warningThresholdPct_le : c.warningThresholdPct ≤ 100
  global_pos : 0 < c.maxOpenOrders.global
  perVenue_pos : 0 < c.maxOpenOrders.perVenue
  perSymbol_pos : 0 < c.maxOpenOrders.perSymbol
  warningMs_pos : 0 < c.dataFreshness.warningMs
  blockMs_pos : 0 < c.dataFreshness.blockMs
  intervalSeconds_pos : 0 < c.reconciliation.intervalSeconds
  mismatchThresholdPct_pos : 0 < c.reconciliation.mismatchThresholdPct
  checkpointIntervalS_pos : 0 < c.checkpointIntervalS

/-- A cost-model section that its tags accept. -/
@[mk_iff] structure CostModelConfig.Valid (c : CostModelConfig) : Prop where
  slippageCurveLookbackFills_pos : 0 < c.slippageCurveLookbackFills
  feeTierRefreshIntervalS_pos : 0 < c.feeTierRefreshIntervalS
  fundingRateLookbackIntervals_pos : 0 < c.fundingRateLookbackIntervals

/-- A metrics section that its tags accept. -/
@[mk_iff] structure MetricsConfig.Valid (c : MetricsConfig) : Prop where
  flushIntervalS_pos : 0 < c.flushIntervalS
  ingestionDelaySLAS_pos : 0 < c.ingestionDelaySLAS

/-- An alerting section that its tags accept. -/
@[mk_iff] structure AlertingConfig.Valid (c : AlertingConfig) : Prop where
  deliveryDelaySLAS_pos : 0 < c.deliveryDelaySLAS
  p1AckSLAMinutes_pos : 0 < c.p1AckSLAMinutes
  p1MitigationSLAMinutes_pos : 0 < c.p1MitigationSLAMinutes

/-- A persistence section that its tags accept. -/
@[mk_iff] structure PersistenceConfig.Valid (c : PersistenceConfig) : Prop where
  checkpointDB_ne : c.checkpointDB ≠ ""
  coldStorePoolSize_pos : 0 < c.coldStorePoolSize
  tradeLogRetentionDays_pos : 0 < c.tradeLogRetentionDays

/-- A configuration that the validator accepts, section by section: the venues map is given and
each entry is valid. -/
@[mk_iff] structure Config.Valid (cfg : Config) : Prop where
  system : cfg.system.Valid
  venues_isSome : cfg.venues.isSome
  venues : ∀ e ∈ cfg.venues.getD [], e.2.Valid isURL
  triangularArb : cfg.strategies.triangularArb.Valid
  basisArb : cfg.strategies.basisArb.Valid
  risk : cfg.risk.Valid
  costModel : cfg.costModel.Valid
  metrics : cfg.monitoring.metrics.Valid
  alerting : cfg.monitoring.alerting.Valid
  persistence : cfg.persistence.Valid

theorem SystemConfig.passes_iff (s : SystemConfig) : Passes isURL s.fields ↔ s.Valid := by
  simp only [Passes, SystemConfig.fields, List.forall_mem_cons, Field.chain,
    firstFailure_required_oneof_eq_none isURL (by decide : "" ∉ ["live", "dry_run", "backtest"]),
    firstFailure_required_oneof_eq_none isURL
      (by decide : "" ∉ ["DEBUG", "INFO", "WARN", "ERROR", "FATAL"])]
  simp [SystemConfig.valid_iff, firstFailure_cons_eq_none, and_assoc]

theorem VenueConfig.passes_iff (v : VenueConfig) : Passes isURL v.fields ↔ v.Valid isURL := by
  simp [Passes, VenueConfig.fields, VenueConfig.valid_iff, Field.chain, firstFailure_cons_eq_none,
    firstFailure_omitempty_eq_none, and_assoc]

theorem TriArbConfig.passes_iff (c : TriArbConfig) : Passes isURL c.fields ↔ c.Valid := by
  simp [Passes, TriArbConfig.fields, TriArbConfig.valid_iff, Field.chain, firstFailure_cons_eq_none]

theorem BasisArbConfig.passes_iff (c : BasisArbConfig) : Passes isURL c.fields ↔ c.Valid := by
  simp [Passes, BasisArbConfig.fields, BasisArbConfig.valid_iff, Field.chain,
    firstFailure_cons_eq_none]

theorem RiskConfig.passes_iff (c : RiskConfig) :
    (∀ sec ∈ c.sections, Passes isURL sec.2) ↔ c.Valid := by
  simp only [RiskConfig.sections, Passes, RiskConfig.fields, maxOpenOrdersFields,
    DataFreshnessConfig.fields, ReconciliationConfig.fields, List.forall_mem_cons,
    List.not_mem_nil, false_implies, implies_true, and_true, Field.chain,
    firstFailure_required_gt_eq_none isURL le_rfl]
  simp [RiskConfig.valid_iff, firstFailure_cons_eq_none, and_assoc, Option.isSome_iff_ne_none]

theorem CostModelConfig.passes_iff (c : CostModelConfig) : Passes isURL c.fields ↔ c.Valid := by
  simp only [Passes, CostModelConfig.fields, List.forall_mem_cons, Field.chain,
    firstFailure_required_gt_eq_none isURL le_rfl]
  simp [CostModelConfig.valid_iff]

theorem MetricsConfig.passes_iff (c : MetricsConfig) : Passes isURL c.fields ↔ c.Valid := by
  simp [Passes, MetricsConfig.fields, MetricsConfig.valid_iff, Field.chain, firstFailure_cons_eq_none]

theorem AlertingConfig.passes_iff (c : AlertingConfig) : Passes isURL c.fields ↔ c.Valid := by
  simp [Passes, AlertingConfig.fields, AlertingConfig.valid_iff, Field.chain,
    firstFailure_cons_eq_none]

theorem PersistenceConfig.passes_iff (c : PersistenceConfig) : Passes isURL c.fields ↔ c.Valid := by
  simp [Passes, PersistenceConfig.fields, PersistenceConfig.valid_iff, Field.chain,
    firstFailure_cons_eq_none, and_assoc]

theorem passes_venues_iff (venues : Option (List (String × VenueConfig))) :
    Passes isURL [⟨"Venues", .map venues.isNone, [.required]⟩] ↔ venues.isSome := by
  cases venues <;> simp [Passes, Field.chain, firstFailure]

/-- **The validator accepts exactly the valid configurations.** `validate.Struct` reports no
error on a configuration if and only if every section satisfies the bounds of its tags. -/
theorem Config.errors_eq_nil_iff (cfg : Config) : cfg.errors isURL = [] ↔ cfg.Valid isURL := by
  simp only [Config.errors, List.flatMap_eq_nil_iff, fieldErrors_eq_nil_iff, Config.sections,
    List.forall_mem_append, List.forall_mem_cons, List.forall_mem_nil, List.forall_mem_map,
    and_true, passes_venues_iff, SystemConfig.passes_iff, VenueConfig.passes_iff,
    TriArbConfig.passes_iff, BasisArbConfig.passes_iff, CostModelConfig.passes_iff,
    MetricsConfig.passes_iff, AlertingConfig.passes_iff, PersistenceConfig.passes_iff,
    RiskConfig.passes_iff, List.not_mem_nil, false_implies, implies_true, Config.valid_iff,
    and_assoc]

end Valid

/-! ## Load and the watcher -/

/-- Why reading or decoding the file failed, with the library's message. -/
inductive ReadError where
  | read (msg : String)
  | unmarshal (msg : String)

/-- `Load`, without storing the result (`ConfigStore.load` does). -/
def load (isURL : String → Bool) (file : Except ReadError RawConfig) : Except String Config :=
  match file with
  | .error (.read msg) => .error ("read config: " ++ msg)
  | .error (.unmarshal msg) => .error ("unmarshal config: " ++ msg)
  | .ok raw =>
    let cfg := raw.unmarshal loadDefaults
    match cfg.errors isURL with
    | [] => .ok cfg
    | errs => .error ("validate config: " ++ validationMessage errs)

/-- A line the configuration code logs, with its key-value pairs. -/
inductive ConfigLog where
  | info (msg : String) (fields : List (String × String))
  | warn (msg : String) (fields : List (String × String))
  | error (msg : String) (fields : List (String × String))

/-- `logConfigChanges`: nothing without an old configuration. -/
def logConfigChanges (old : Option Config) (new : Config) : List ConfigLog :=
  match old with
  | none => []
  | some old =>
    (if old.system.tradingMode ≠ new.system.tradingMode then
      [.warn "trading mode changed" [("old", old.system.tradingMode), ("new", new.system.tradingMode)]]
    else []) ++
    (if old.system.logLevel ≠ new.system.logLevel then
      [.info "log level changed" [("old", old.system.logLevel), ("new", new.system.logLevel)]]
    else [])

/-- The stored configuration `Get` returns. -/
structure ConfigStore where
  global : Option Config

/-- `Load` with its store: a loaded configuration replaces the stored one. -/
def ConfigStore.load (isURL : String → Bool) (st : ConfigStore)
    (file : Except ReadError RawConfig) : ConfigStore :=
  match Configuration.load isURL file with
  | .ok cfg => ⟨some cfg⟩
  | .error _ => st

/-- The handler `WatchAndReload` registers, on the file as the watcher's viper decodes it, with
the `onChange` of `main`, which logs `configuration reloaded`. -/
def ConfigStore.onConfigChange (isURL : String → Bool) (st : ConfigStore)
    (file : Except String RawConfig) : ConfigStore × List ConfigLog :=
  match file with
  | .error msg => (st, [.error "failed to unmarshal reloaded config" [("error", msg)]])
  | .ok raw =>
    let newCfg := raw.unmarshal zeroValues
    match newCfg.errors isURL with
    | [] =>
      (⟨some newCfg⟩, [.info "configuration reloaded successfully" [],
        .info "configuration reloaded" []] ++ logConfigChanges st.global newCfg)
    | errs => (st, [.error "reloaded config validation failed" [("error", validationMessage errs)]])

/-- What changes the stored configuration: `Load` at startup, or a change of the watched file. -/
inductive ConfigEvent where
  | load (file : Except ReadError RawConfig)
  | change (file : Except String RawConfig)

/-- One event. -/
def ConfigStore.step (isURL : String → Bool) (st : ConfigStore) : ConfigEvent → ConfigStore
  | .load file => st.load isURL file
  | .change file => (st.onConfigChange isURL file).1

/-- A run of events. -/
def ConfigStore.run (isURL : String → Bool) (st : ConfigStore) (events : List ConfigEvent) :
    ConfigStore :=
  events.foldl (ConfigStore.step isURL) st

/-! ## What `Load` and the watcher keep -/

section Store

variable (isURL : String → Bool)

theorem load_eq_ok {file : Except ReadError RawConfig} {cfg : Config}
    (h : load isURL file = .ok cfg) :
    ∃ raw, file = .ok raw ∧ cfg = raw.unmarshal loadDefaults ∧ cfg.Valid isURL := by
  rcases file with (msg | msg) | raw
  · cases h
  · cases h
  · simp only [load] at h
    split at h
    · next hnil => cases h; exact ⟨raw, rfl, rfl, (Config.errors_eq_nil_iff isURL _).mp hnil⟩
    · cases h

theorem load_ok_of_valid {raw : RawConfig} (h : (raw.unmarshal loadDefaults).Valid isURL) :
    load isURL (.ok raw) = .ok (raw.unmarshal loadDefaults) := by
  simp only [load, (Config.errors_eq_nil_iff isURL _).mpr h]

/-- The keys with both a default and a check, under the namespaces of their fields, that the
file leaves out. -/
def RawConfig.leftOut (raw : RawConfig) : List (List Segment) :=
  (if raw.system.logLevel = none then [[.field "Config", .field "System", .field "LogLevel"]]
    else []) ++
  (if raw.system.timezone = none then [[.field "Config", .field "System", .field "Timezone"]]
    else []) ++
  (if raw.persistence.coldStorePoolSize = none then
    [[.field "Config", .field "Persistence", .field "ColdStorePoolSize"]] else []) ++
  (if raw.persistence.tradeLogRetentionDays = none then
    [[.field "Config", .field "Persistence", .field "TradeLogRetentionDays"]] else [])

/-- **Every default of `Load` passes its own check.** A field whose key the file leaves to its
default passes its tags in the validation of `Load`. -/
theorem load_defaults_pass (raw : RawConfig) :
    ∀ sec ∈ (raw.unmarshal loadDefaults).sections, ∀ f ∈ sec.2,
      sec.1 ++ [.field f.name] ∈ raw.leftOut → firstFailure isURL f.value f.chain = none := by
  intro sec hsec f hf hk
  simp only [RawConfig.leftOut, List.mem_append, List.mem_ite_nil_right, List.mem_singleton] at hk
  simp only [Config.sections, RiskConfig.sections, List.mem_append, List.mem_cons, List.mem_map,
    List.not_mem_nil, or_false] at hsec
  rcases hsec with ((((rfl | rfl) | ⟨e, -, rfl⟩) | rfl | rfl) | rfl | rfl | rfl | rfl | rfl) |
    rfl | rfl | rfl | rfl
  all_goals
    simp only [SystemConfig.fields, VenueConfig.fields, TriArbConfig.fields, BasisArbConfig.fields,
      RiskConfig.fields, maxOpenOrdersFields, DataFreshnessConfig.fields,
      ReconciliationConfig.fields, CostModelConfig.fields, MetricsConfig.fields,
      AlertingConfig.fields, PersistenceConfig.fields, List.mem_cons, List.not_mem_nil,
      or_false] at hf
    rcases hf with rfl | rfl | rfl | rfl | rfl | rfl | rfl
  -- only the four keys of `leftOut` survive the comparison of namespaces and names
  all_goals simp only [List.cons_append, List.nil_append, List.cons.injEq, Segment.field.injEq,
    String.reduceEq, reduceCtorEq, and_false, false_and, or_false, false_or, and_true] at hk
  all_goals
    simp [RawConfig.unmarshal, loadDefaults, hk, Field.chain, firstFailure_cons_eq_none]

/-- The validation of `Load` never names a key the file leaves to its default. -/
theorem load_errors_not_leftOut (raw : RawConfig) :
    ∀ e ∈ (raw.unmarshal loadDefaults).errors isURL, e.key ∉ raw.leftOut := by
  intro e he hk
  obtain ⟨sec, hsec, f, hf, t, ht, rfl⟩ := (Config.mem_errors isURL).mp he
  rw [load_defaults_pass isURL raw sec hsec f hf hk] at ht
  cases ht

theorem mem_errors_of {cfg : Config} (ns : List Segment) (fields : List Field) (f : Field) (t : Tag)
    (hsec : (ns, fields) ∈ cfg.sections) (hf : f ∈ fields)
    (ht : firstFailure isURL f.value f.chain = some t) :
    (⟨ns ++ [.field f.name], f.name, t.name⟩ : FieldError) ∈ cfg.errors isURL :=
  (Config.mem_errors isURL).mpr ⟨_, hsec, f, hf, t, ht, rfl⟩

/-- The zero values fail the checks of the keys with a default: the watcher's validation names
every such key the file leaves out. -/
theorem reload_errors_leftOut (raw : RawConfig) :
    ∀ k ∈ raw.leftOut, ∃ e ∈ (raw.unmarshal zeroValues).errors isURL, e.key = k := by
  intro k hk
  simp only [RawConfig.leftOut, List.mem_append, List.mem_ite_nil_right, List.mem_singleton] at hk
  rcases hk with ((⟨h, rfl⟩ | ⟨h, rfl⟩) | ⟨h, rfl⟩) | ⟨h, rfl⟩
  · exact ⟨_, mem_errors_of isURL [.field "Config", .field "System"]
      (raw.unmarshal zeroValues).system.fields ⟨"LogLevel", .str "",
      [.required, .oneof ["DEBUG", "INFO", "WARN", "ERROR", "FATAL"]]⟩ .required
      (by simp [Config.sections]) (by simp [SystemConfig.fields, RawConfig.unmarshal, zeroValues, h])
      rfl, rfl⟩
  · exact ⟨_, mem_errors_of isURL [.field "Config", .field "System"]
      (raw.unmarshal zeroValues).system.fields
      ⟨"Timezone", .str "", [.required]⟩ .required
      (by simp [Config.sections]) (by simp [SystemConfig.fields, RawConfig.unmarshal, zeroValues, h])
      rfl, rfl⟩
  · exact ⟨_, mem_errors_of isURL [.field "Config", .field "Persistence"]
      (raw.unmarshal zeroValues).persistence.fields
      ⟨"ColdStorePoolSize", .int 0, [.gt 0]⟩ (.gt 0)
      (by simp [Config.sections])
      (by simp [PersistenceConfig.fields, RawConfig.unmarshal, zeroValues, h]) rfl, rfl⟩
  · exact ⟨_, mem_errors_of isURL [.field "Config", .field "Persistence"]
      (raw.unmarshal zeroValues).persistence.fields
      ⟨"TradeLogRetentionDays", .int 0, [.gt 0]⟩ (.gt 0)
      (by simp [Config.sections])
      (by simp [PersistenceConfig.fields, RawConfig.unmarshal, zeroValues, h]) rfl, rfl⟩

/-- **A reload rejects a file that relies on a default.** `Load` gives a file the defaults of the
checked keys it leaves out, and its validation names none of them; the watcher decodes the same
file with the zero values, its validation names every one of them, and the reload leaves the
stored configuration as it was. -/
theorem reload_rejects_leftOut (st : ConfigStore) (raw : RawConfig) (h : raw.leftOut ≠ []) :
    (∀ e ∈ (raw.unmarshal loadDefaults).errors isURL, e.key ∉ raw.leftOut) ∧
      (∀ k ∈ raw.leftOut, ∃ e ∈ (raw.unmarshal zeroValues).errors isURL, e.key = k) ∧
      (st.onConfigChange isURL (.ok raw)).1 = st := by
  refine ⟨load_errors_not_leftOut isURL raw, reload_errors_leftOut isURL raw, ?_⟩
  obtain ⟨k, hk⟩ := List.exists_mem_of_ne_nil _ h
  obtain ⟨e, he, -⟩ := reload_errors_leftOut isURL raw k hk
  simp only [ConfigStore.onConfigChange]
  split
  · next hnil => rw [hnil] at he; cases he
  · rfl

/-- A file for two venues in the given mode that sets every checked key except the log level and
the timezone, and leaves the dry-run, pool, retention and runtime keys to their defaults. -/
def sampleFile (tradingMode : String) : RawConfig where
  system := ⟨"trader-1", tradingMode, none, none, none⟩
  venues := some [("nobitex", ⟨true, "wss-nobitex", "rest-nobitex"⟩),
    ("kcex", ⟨true, "wss-kcex", "rest-kcex"⟩)]
  strategies := ⟨⟨true, 18, 10, 3, 2, 5000, 2⟩, ⟨true, 25, 10, 3, 5, 2, 30000, 8⟩⟩
  risk := ⟨some [("BTC", 3 / 2), ("ETH", 25), ("SOL", 800)],
    some [("nobitex", 250000), ("kcex", 200000)], 12500, 80, ⟨120, 70, 20⟩, ⟨500, 2000⟩,
    ⟨60, 1 / 2⟩, 30⟩
  costModel := ⟨500, 3600, 3⟩
  monitoring := ⟨⟨10, 30⟩, ⟨60, 5, 30, ["slack"]⟩⟩
  dryRun := ⟨none, none, none, none, none⟩
  persistence := ⟨"data/checkpoints.db", "", none, none⟩
  runtime := ⟨none, none, none⟩

theorem sampleFile_valid (tradingMode : String)
    (hm : tradingMode ∈ ["live", "dry_run", "backtest"]) (isURL : String → Bool)
    (hurl : ∀ s, isURL s = true) :
    ((sampleFile tradingMode).unmarshal loadDefaults).Valid isURL := by
  refine ⟨⟨by simp [sampleFile, RawConfig.unmarshal], hm, by simp [sampleFile, RawConfig.unmarshal,
      loadDefaults], by simp [sampleFile, RawConfig.unmarshal, loadDefaults]⟩, rfl, ?_, ?_, ?_, ?_,
    ?_, ?_, ?_, ?_⟩ <;>
    simp [sampleFile, RawConfig.unmarshal, loadDefaults, hurl, VenueConfig.valid_iff,
      TriArbConfig.valid_iff, BasisArbConfig.valid_iff, RiskConfig.valid_iff,
      CostModelConfig.valid_iff, MetricsConfig.valid_iff, AlertingConfig.valid_iff,
      PersistenceConfig.valid_iff]

theorem load_sampleFile (tradingMode : String)
    (hm : tradingMode ∈ ["live", "dry_run", "backtest"]) :
    load (fun _ => true) (.ok (sampleFile tradingMode)) =
      .ok ((sampleFile tradingMode).unmarshal loadDefaults) :=
  load_ok_of_valid _ (sampleFile_valid tradingMode hm _ fun _ => rfl)

/-- The dry-run sample loads, and its reload is rejected: the store keeps what `Load` stored. -/
theorem reload_rejects_leftOut_sampleFile :
    (sampleFile "dry_run").leftOut ≠ [] ∧
      (∀ e ∈ ((sampleFile "dry_run").unmarshal loadDefaults).errors fun _ => true,
        e.key ∉ (sampleFile "dry_run").leftOut) ∧
      (∀ k ∈ (sampleFile "dry_run").leftOut,
        ∃ e ∈ ((sampleFile "dry_run").unmarshal zeroValues).errors fun _ => true, e.key = k) ∧
      ((⟨some ((sampleFile "dry_run").unmarshal loadDefaults)⟩ : ConfigStore).onConfigChange
        (fun _ => true) (.ok (sampleFile "dry_run"))).1 =
        ⟨some ((sampleFile "dry_run").unmarshal loadDefaults)⟩ := by
  have h : (sampleFile "dry_run").leftOut ≠ [] := by simp [RawConfig.leftOut, sampleFile]
  exact ⟨h, reload_rejects_leftOut (fun _ => true) _ (sampleFile "dry_run") h⟩

end Store

end ArbitrageEngine.Configuration
