import Mathlib.Algebra.Order.Ring.Unbundled.Rat
import Mathlib.Data.Finset.Basic
import Mathlib.Tactic.Linarith
import Hepta.Library.Checked

/-!
# The pre-trade risk engine

`PreTradeRiskEngine::Evaluate` is a chain of checks over a configuration and a context; an order is
allowed if no check refuses it. Numbers are read as exact rationals, so they are all finite and the
checks for finite numbers are left out.
-/

namespace Hepta

open Checked

structure PreTradeRiskConfig where
  enableOrderSubmission : Bool := false
  globalKillSwitch : Bool := false
  flattenOnly : Bool := false
  maxOrderQuantity : ℚ := 1
  maxDailyOrders : Int := 1
  maxPriceDeviationBps : ℚ := 30
  maxOrderNotional : ℚ := 0
  maxWorstCaseGrossNotional : ℚ := 0
  maxDailyLoss : ℚ := 0
  maxDrawdown : ℚ := 0
  maxSnapshotAgeMs : Int := 0
  allowLiveTrading : Bool := false
  liveKillSwitch : Bool := true
  deriving DecidableEq

/-- What an evaluation is about: the configured portfolio. -/
structure PreTradeRiskSubject where
  portfolioId : String := ""
  account : String := ""
  venue : String := ""
  baseCurrency : String := ""
  instruments : Finset String := ∅
  deriving DecidableEq

structure PreTradeRiskSnapshotIdentity where
  subject : PreTradeRiskSubject := {}
  present : Bool := false
  complete : Bool := false
  connectionEpoch : ℕ := 0
  generation : ℕ := 0
  observedAtMs : Int := 0
  evaluatedAtMs : Int := 0
  deriving DecidableEq

/-- What the parts of a snapshot share. -/
structure PreTradeRiskSection where
  subject : PreTradeRiskSubject := {}
  present : Bool := false
  connectionEpoch : ℕ := 0
  generation : ℕ := 0
  deriving DecidableEq

structure PreTradeRiskExposureSnapshot extends PreTradeRiskSection where
  currentGrossNotional : ℚ := 0
  pendingBuyNotional : ℚ := 0
  pendingSellNotional : ℚ := 0
  deriving DecidableEq

structure PreTradeRiskPnlSnapshot extends PreTradeRiskSection where
  realizedPnl : ℚ := 0
  unrealizedPnl : ℚ := 0
  deriving DecidableEq

structure PreTradeRiskEquitySnapshot extends PreTradeRiskSection where
  peakEquity : ℚ := 0
  currentEquity : ℚ := 0
  deriving DecidableEq

structure PreTradeRiskAuthoritativeSnapshot where
  identity : PreTradeRiskSnapshotIdentity := {}
  exposure : PreTradeRiskExposureSnapshot := {}
  pnl : PreTradeRiskPnlSnapshot := {}
  equity : PreTradeRiskEquitySnapshot := {}
  deriving DecidableEq

inductive PreTradeRiskQuantityUnit where
  | unspecified
  | baseCurrencyUnits
  | shares
  | contracts
  deriving DecidableEq, Repr

inductive PreTradeRiskPriceUnit where
  | unspecified
  | quoteCurrencyPerUnit
  deriving DecidableEq, Repr

inductive PreTradeRiskInstrumentKind where
  | unspecified
  | cashFx
  | stock
  | future
  | option
  deriving DecidableEq, Repr

structure PreTradeRiskInstrumentContract where
  specificationId : String := ""
  specificationVersion : ℕ := 0
  instrument : String := ""
  kind : PreTradeRiskInstrumentKind := .unspecified
  quantityUnit : PreTradeRiskQuantityUnit := .unspecified
  priceUnit : PreTradeRiskPriceUnit := .unspecified
  multiplier : ℚ := 0
  quoteCurrency : String := ""
  deriving DecidableEq, Repr

structure PreTradeRiskPriceEvidence where
  sourceId : String := ""
  instrument : String := ""
  currency : String := ""
  connectionEpoch : ℕ := 0
  generation : ℕ := 0
  observedAtMs : Int := 0
  price : ℚ := 0
  deriving DecidableEq, Repr

structure PreTradeRiskFxEvidence where
  sourceId : String := ""
  fromCurrency : String := ""
  toCurrency : String := ""
  connectionEpoch : ℕ := 0
  generation : ℕ := 0
  observedAtMs : Int := 0
  rate : ℚ := 0
  deriving DecidableEq, Repr

structure PreTradeRiskOrderNotionalEvidence where
  present : Bool := false
  subject : PreTradeRiskSubject := {}
  connectionEpoch : ℕ := 0
  generation : ℕ := 0
  contract : PreTradeRiskInstrumentContract := {}
  quantity : ℚ := 0
  baseCurrencyNotional : ℚ := 0
  quote : PreTradeRiskPriceEvidence := {}
  fx : PreTradeRiskFxEvidence := {}
  deriving DecidableEq

structure PreTradeRiskContext where
  venue : String := ""
  account : String := ""
  symbol : String := ""
  action : String := ""
  orderType : String := ""
  authorizedSubject : PreTradeRiskSubject := {}
  instrumentContract : PreTradeRiskInstrumentContract := {}
  authorizedQuoteSourceId : String := ""
  authorizedFxSourceId : String := ""
  /-- The clock of the decision. -/
  evaluatedAtMs : Int := 0
  totalQuantity : ℚ := 0
  limitPrice : ℚ := 0
  referencePrice : ℚ := 0
  todayOrderCount : Int := 0
  accountWhitelisted : Bool := false
  paperAccount : Bool := true
  positionKnown : Bool := false
  netPosition : ℚ := 0
  orderNotionalEvidence : PreTradeRiskOrderNotionalEvidence := {}
  authoritativeSnapshot : PreTradeRiskAuthoritativeSnapshot := {}
  deriving DecidableEq

structure PreTradeRiskDecision where
  allow : Bool := false
  reasonCode : String := ""
  detail : String := ""
  orderNotional : ℚ := 0
  worstCaseGrossNotional : ℚ := 0
  snapshotConnectionEpoch : ℕ := 0
  snapshotGeneration : ℕ := 0
  deriving DecidableEq, Repr

namespace PreTradeRiskEngine

/-! ### Decisions -/

def allow (orderNotional worstCaseGrossNotional : ℚ) (snapshotConnectionEpoch : ℕ)
    (snapshotGeneration : ℕ) : PreTradeRiskDecision :=
  { allow := true
    reasonCode := "RISK_OK"
    orderNotional
    worstCaseGrossNotional
    snapshotConnectionEpoch
    snapshotGeneration }

/-- A decision that does not allow the order. -/
abbrev Rejection := { decision : PreTradeRiskDecision // decision.allow = false }

def reject (code detail : String) (orderNotional : ℚ := 0) (worstCaseGrossNotional : ℚ := 0)
    (snapshotConnectionEpoch : ℕ := 0) (snapshotGeneration : ℕ := 0) : Rejection :=
  ⟨{ allow := false
     reasonCode := code
     detail
     orderNotional
     worstCaseGrossNotional
     snapshotConnectionEpoch
     snapshotGeneration }, rfl⟩

variable (identity : PreTradeRiskSnapshotIdentity)

/-- The rejections of the sections name the snapshot. -/
def rejectAt (code detail : String)
    (orderNotional : ℚ := 0) (worstCaseGrossNotional : ℚ := 0) : Rejection :=
  reject code detail orderNotional worstCaseGrossNotional identity.connectionEpoch
    identity.generation

def limitEnabled (value : ℚ) : Bool := decide (0 < value)

def exceedsInclusiveLimit (value limit : ℚ) : Bool := decide (limit < value)

/-! ### Identities -/

def validSnapshotIdentity : Bool :=
  identity.present && identity.complete && decide (0 < identity.connectionEpoch) &&
    decide (0 < identity.generation) && decide (0 < identity.observedAtMs) &&
    decide (0 < identity.evaluatedAtMs) && decide (identity.observedAtMs ≤ identity.evaluatedAtMs)

def sameGeneration (sectionGeneration : ℕ) (identity : PreTradeRiskSnapshotIdentity) : Bool :=
  decide (0 < sectionGeneration) && sectionGeneration = identity.generation

def validSubject (subject : PreTradeRiskSubject) : Bool :=
  subject.portfolioId ≠ "" && subject.account ≠ "" && subject.venue ≠ "" &&
    subject.baseCurrency ≠ "" && subject.instruments ≠ ∅ && decide ("" ∉ subject.instruments)

def sameSubject (left right : PreTradeRiskSubject) : Bool :=
  validSubject left && validSubject right && left.portfolioId = right.portfolioId &&
    left.account = right.account && left.venue = right.venue &&
    left.baseCurrency = right.baseCurrency && left.instruments = right.instruments

def validInstrumentContract (contract : PreTradeRiskInstrumentContract) : Bool :=
  if contract.specificationId = "" ∨ contract.specificationVersion = 0 ∨ contract.instrument = "" ∨
      contract.quoteCurrency = "" ∨ contract.multiplier ≤ 0 ∨
      contract.priceUnit ≠ .quoteCurrencyPerUnit then false
  else match contract.kind with
    | .cashFx => contract.quantityUnit = .baseCurrencyUnits && contract.multiplier = 1
    | .stock => contract.quantityUnit = .shares && contract.multiplier = 1
    | .future | .option => contract.quantityUnit = .contracts
    | .unspecified => false

def sameInstrumentContract (left right : PreTradeRiskInstrumentContract) : Bool :=
  validInstrumentContract left && validInstrumentContract right &&
    left.specificationId = right.specificationId &&
    left.specificationVersion = right.specificationVersion &&
    left.instrument = right.instrument && left.kind = right.kind &&
    left.quantityUnit = right.quantityUnit && left.priceUnit = right.priceUnit &&
    left.multiplier = right.multiplier && left.quoteCurrency = right.quoteCurrency

def freshEvidence (observedAtMs : Int) (identity : PreTradeRiskSnapshotIdentity)
    (maxAgeMs : Int) : Bool :=
  decide (0 < observedAtMs) && decide (observedAtMs ≤ identity.evaluatedAtMs) &&
    decide (identity.evaluatedAtMs - observedAtMs ≤ maxAgeMs)

/-! ### The notional of the order -/

/-- `std::numeric_limits<double>::epsilon()`. -/
def epsilon : ℚ := 1 / 2 ^ 52

def validateOrderNotional (cfg : PreTradeRiskConfig) (ctx : PreTradeRiskContext) :
    Except Rejection ℚ := do
  let evidence := ctx.orderNotionalEvidence
  let identity := ctx.authoritativeSnapshot.identity
  refuse (¬evidence.present) (reject "RISK_ORDER_NOTIONAL_UNAVAILABLE"
    "bound converted notional evidence is required")
  refuse (¬sameSubject evidence.subject identity.subject)
    (reject "RISK_ORDER_NOTIONAL_SUBJECT_MISMATCH"
      "converted notional belongs to another risk subject")
  refuse (evidence.connectionEpoch ≠ identity.connectionEpoch ∨
      ¬sameGeneration evidence.generation identity)
    (reject "RISK_ORDER_NOTIONAL_GENERATION_MISMATCH"
      "converted notional belongs to another snapshot epoch/generation")
  refuse (¬sameInstrumentContract ctx.instrumentContract evidence.contract ∨
      evidence.contract.instrument ≠ ctx.symbol ∨ evidence.quantity ≠ ctx.totalQuantity)
    (reject "RISK_ORDER_NOTIONAL_UNIT_CONTRACT_INVALID"
      "converted notional must match the execution-owned instrument specification and quantity")
  let quote := evidence.quote
  refuse (ctx.authorizedQuoteSourceId = "" ∨ quote.sourceId ≠ ctx.authorizedQuoteSourceId ∨
      quote.instrument ≠ ctx.symbol ∨ quote.currency ≠ evidence.contract.quoteCurrency ∨
      quote.connectionEpoch ≠ identity.connectionEpoch ∨
      ¬sameGeneration quote.generation identity ∨ quote.price ≤ 0 ∨
      quote.price ≠ ctx.referencePrice)
    (reject "RISK_ORDER_NOTIONAL_QUOTE_INVALID"
      "quote source, instrument, currency, generation and reference price must match")
  refuse (¬freshEvidence quote.observedAtMs identity cfg.maxSnapshotAgeMs)
    (reject "RISK_ORDER_NOTIONAL_QUOTE_STALE" "converted notional quote is stale or future dated")
  let fx := evidence.fx
  refuse (ctx.authorizedFxSourceId = "" ∨ fx.sourceId ≠ ctx.authorizedFxSourceId ∨
      fx.fromCurrency ≠ quote.currency ∨ fx.toCurrency ≠ identity.subject.baseCurrency ∨
      fx.connectionEpoch ≠ identity.connectionEpoch ∨ ¬sameGeneration fx.generation identity ∨
      fx.rate ≤ 0 ∨ (fx.fromCurrency = fx.toCurrency ∧ fx.rate ≠ 1))
    (reject "RISK_ORDER_NOTIONAL_FX_INVALID"
      "explicit FX conversion source, currencies, rate and generation must match")
  refuse (¬freshEvidence fx.observedAtMs identity cfg.maxSnapshotAgeMs)
    (reject "RISK_ORDER_NOTIONAL_FX_STALE" "converted notional FX evidence is stale or future dated")
  refuse (ctx.orderType ≠ "LMT" ∧ ctx.orderType ≠ "MKT")
    (reject "RISK_ORDER_NOTIONAL_UNIT_CONTRACT_INVALID" "unsupported order price convention")
  -- A limit above the observed reference must not understate possible spend.
  let price := if ctx.orderType = "LMT" then max ctx.limitPrice quote.price else quote.price
  let calculated := evidence.quantity * evidence.contract.multiplier * price * fx.rate
  refuse (evidence.baseCurrencyNotional ≤ 0 ∨ calculated ≤ 0)
    (reject "RISK_ORDER_NOTIONAL_INVALID"
      "converted notional and validated unit arithmetic must be finite and positive")
  let tolerance := epsilon * max calculated evidence.baseCurrencyNotional * 8
  refuse (tolerance < |calculated - evidence.baseCurrencyNotional|)
    (reject "RISK_ORDER_NOTIONAL_CONVERSION_MISMATCH"
      "converted amount does not match quantity, multiplier, quote and FX evidence")
  .ok (max calculated evidence.baseCurrencyNotional)

/-! ### The checks -/

def isFlatteningOrder (ctx : PreTradeRiskContext) : Bool :=
  if ctx.totalQuantity ≤ 0 then false
  else if 0 < ctx.netPosition then
    let afterPosition := ctx.netPosition - ctx.totalQuantity
    ctx.action = "SELL" && decide (0 ≤ afterPosition) && decide (afterPosition < ctx.netPosition)
  else if ctx.netPosition < 0 then
    let afterPosition := ctx.netPosition + ctx.totalQuantity
    ctx.action = "BUY" && decide (afterPosition ≤ 0) && decide (ctx.netPosition < afterPosition)
  else false

/-- The checks of `Evaluate` before the flatten-only mode. -/
def checkAdmission (cfg : PreTradeRiskConfig) (ctx : PreTradeRiskContext) :
    Except Rejection Unit := do
  refuse cfg.globalKillSwitch (reject "RISK_GLOBAL_KILL_SWITCH_ON" "global kill switch enabled")
  refuse (¬cfg.enableOrderSubmission)
    (reject "RISK_ORDER_SUBMISSION_DISABLED" "order submission gate is closed")
  refuse (ctx.totalQuantity ≤ 0 ∨ cfg.maxOrderQuantity ≤ 0 ∨
      cfg.maxOrderQuantity < ctx.totalQuantity)
    (reject "RISK_QTY_OUT_OF_RANGE" "qty invalid or exceeds maxOrderQuantity")
  refuse (ctx.todayOrderCount < 0 ∨ cfg.maxDailyOrders ≤ 0 ∨
      cfg.maxDailyOrders ≤ ctx.todayOrderCount)
    (reject "RISK_DAILY_ORDER_LIMIT" "daily order limit reached or invalid")
  refuse (¬ctx.accountWhitelisted)
    (reject "RISK_ACCOUNT_NOT_WHITELISTED" "account is not in whitelist")
  refuse (¬ctx.paperAccount ∧ ¬cfg.allowLiveTrading)
    (reject "RISK_LIVE_NOT_AUTHORIZED" "live trading is not explicitly authorized")
  refuse (¬ctx.paperAccount ∧ cfg.liveKillSwitch)
    (reject "RISK_LIVE_KILL_SWITCH_ON" "live kill switch is ON")

/-- The flatten-only mode: whether the order reduces the exposure. -/
def checkFlattenOnly (cfg : PreTradeRiskConfig) (ctx : PreTradeRiskContext) :
    Except Rejection Bool :=
  if cfg.flattenOnly then do
    refuse (¬ctx.positionKnown) (reject "RISK_FLATTEN_ONLY_POSITION_UNKNOWN"
      "flatten-only mode requires known finite position")
    refuse (¬isFlatteningOrder ctx)
      (reject "RISK_FLATTEN_ONLY_BLOCK" "order is not reducing current exposure")
    .ok true
  else .ok false

def checkPrices (cfg : PreTradeRiskConfig) (ctx : PreTradeRiskContext) :
    Except Rejection Unit := do
  refuse (ctx.limitPrice < 0 ∨ ctx.referencePrice < 0)
    (reject "RISK_PRICE_INVALID" "price inputs must be finite and non-negative")
  refuse (cfg.maxPriceDeviationBps < 0)
    (reject "RISK_PRICE_POLICY_INVALID" "maxPriceDeviationBps must be finite and non-negative")
  let deviates := 0 < cfg.maxPriceDeviationBps ∧ ctx.orderType = "LMT"
  refuse (deviates ∧ (ctx.limitPrice ≤ 0 ∨ ctx.referencePrice ≤ 0))
    (reject "RISK_REFERENCE_PRICE_REQUIRED" "LMT deviation check requires positive prices")
  let devBps := |ctx.limitPrice - ctx.referencePrice| / ctx.referencePrice * 10000
  refuse (deviates ∧ cfg.maxPriceDeviationBps < devBps)
    (reject "RISK_PRICE_DEVIATION_TOO_LARGE" "limit price deviation exceeds maxPriceDeviationBps")

def checkPolicy (cfg : PreTradeRiskConfig) : Except Rejection Unit := do
  refuse (∃ limit ∈ [cfg.maxOrderNotional, cfg.maxWorstCaseGrossNotional, cfg.maxDailyLoss,
      cfg.maxDrawdown], limit < 0)
    (reject "RISK_LIMIT_POLICY_INVALID" "optional risk limits must be finite and non-negative")
  refuse (cfg.maxSnapshotAgeMs < 0)
    (reject "RISK_SNAPSHOT_POLICY_INVALID" "maxSnapshotAgeMs must be non-negative")

structure Needs where
  exposure : Bool
  pnl : Bool
  equity : Bool
  notional : Bool

def needs (cfg : PreTradeRiskConfig) (reducingExposure : Bool) : Needs :=
  let exposure := !reducingExposure && limitEnabled cfg.maxWorstCaseGrossNotional
  { exposure
    pnl := !reducingExposure && limitEnabled cfg.maxDailyLoss
    equity := !reducingExposure && limitEnabled cfg.maxDrawdown
    notional := !reducingExposure && (limitEnabled cfg.maxOrderNotional || exposure) }

def Needs.portfolioSnapshot (n : Needs) : Bool := n.exposure || n.pnl || n.equity

def Needs.snapshot (n : Needs) (cfg : PreTradeRiskConfig) : Bool :=
  n.portfolioSnapshot || n.notional || decide (0 < cfg.maxSnapshotAgeMs)

def checkIdentity (cfg : PreTradeRiskConfig) (ctx : PreTradeRiskContext) :
    Except Rejection Unit := do
  let identity := ctx.authoritativeSnapshot.identity
  refuse (¬validSnapshotIdentity identity) (reject "RISK_SNAPSHOT_IDENTITY_REQUIRED"
    "authoritative snapshot identity, completeness, epoch, generation and timestamps are required")
  refuse (ctx.evaluatedAtMs ≤ 0 ∨ identity.evaluatedAtMs ≠ ctx.evaluatedAtMs)
    (reject "RISK_SNAPSHOT_EVALUATION_TIME_MISMATCH"
      "snapshot evaluation must match the execution-owned clock for this decision")
  refuse (¬sameSubject ctx.authorizedSubject identity.subject ∨
      ctx.authorizedSubject.account ≠ ctx.account ∨ ctx.authorizedSubject.venue ≠ ctx.venue ∨
      ctx.symbol ∉ ctx.authorizedSubject.instruments)
    (reject "RISK_SNAPSHOT_SUBJECT_MISMATCH"
      ("snapshot must match the authorized portfolio, account, venue, base currency and full " ++
        "instrument set"))
  refuse (cfg.maxSnapshotAgeMs < identity.evaluatedAtMs - identity.observedAtMs)
    (rejectAt identity "RISK_SNAPSHOT_STALE" "authoritative risk snapshot is stale")

/-- A section of the snapshot: its presence, its subject, its generation and its numbers. -/
def checkSection (part : PreTradeRiskSection)
    (requiredCode requiredDetail subjectDetail generationDetail numericDetail : String)
    (invalid : Bool) : Except Rejection Unit := do
  refuse (¬part.present) (rejectAt identity requiredCode requiredDetail)
  refuse (¬sameSubject part.subject identity.subject)
    (reject "RISK_SNAPSHOT_SUBJECT_MISMATCH" subjectDetail)
  refuse (part.connectionEpoch ≠ identity.connectionEpoch ∨
      ¬sameGeneration part.generation identity)
    (rejectAt identity "RISK_SNAPSHOT_GENERATION_MISMATCH" generationDetail)
  refuse invalid (rejectAt identity "RISK_NUMERIC_CONTEXT_INVALID" numericDetail)

variable (snapshot : PreTradeRiskAuthoritativeSnapshot)

def checkExposure : Except Rejection Unit :=
  let exposure := snapshot.exposure
  checkSection snapshot.identity exposure.toPreTradeRiskSection "RISK_SNAPSHOT_EXPOSURE_REQUIRED"
    "gross and pending exposure snapshot is required" "exposure belongs to another risk subject"
    "exposure does not belong to the authoritative snapshot generation"
    "gross or pending exposure context is invalid"
    (decide (exposure.currentGrossNotional < 0 ∨ exposure.pendingBuyNotional < 0 ∨
      exposure.pendingSellNotional < 0))

def checkPnl : Except Rejection Unit :=
  checkSection snapshot.identity snapshot.pnl.toPreTradeRiskSection "RISK_SNAPSHOT_PNL_REQUIRED"
    "realized and unrealized PnL snapshot is required" "PnL belongs to another risk subject"
    "PnL does not belong to the authoritative snapshot generation" "PnL context is invalid" false

def checkEquity : Except Rejection Unit :=
  let equity := snapshot.equity
  checkSection snapshot.identity equity.toPreTradeRiskSection "RISK_SNAPSHOT_EQUITY_REQUIRED"
    "peak and current equity snapshot is required" "equity belongs to another risk subject"
    "equity does not belong to the authoritative snapshot generation" "equity context is invalid"
    (decide (equity.peakEquity < 0 ∨ equity.currentEquity < 0))

/-- The limits of an order that does not reduce the exposure. -/
def checkLimits (cfg : PreTradeRiskConfig) (snapshot : PreTradeRiskAuthoritativeSnapshot)
    (n : Needs) (orderNotional worstCaseGrossNotional : ℚ) : Except Rejection Unit := do
  let beyond code detail :=
    rejectAt snapshot.identity code detail orderNotional worstCaseGrossNotional
  refuse (limitEnabled cfg.maxOrderNotional ∧
      exceedsInclusiveLimit orderNotional cfg.maxOrderNotional)
    (beyond "RISK_ORDER_NOTIONAL_LIMIT" "order notional exceeds maxOrderNotional")
  refuse (n.exposure ∧ exceedsInclusiveLimit worstCaseGrossNotional cfg.maxWorstCaseGrossNotional)
    (beyond "RISK_WORST_CASE_GROSS_LIMIT"
      "current plus pending plus candidate exposure exceeds maxWorstCaseGrossNotional")
  let totalPnl := snapshot.pnl.realizedPnl + snapshot.pnl.unrealizedPnl
  let dailyLoss := if totalPnl < 0 then -totalPnl else 0
  refuse (n.pnl ∧ exceedsInclusiveLimit dailyLoss cfg.maxDailyLoss)
    (beyond "RISK_DAILY_LOSS_LIMIT" "daily loss exceeds maxDailyLoss")
  let equity := snapshot.equity
  let drawdown :=
    if equity.currentEquity < equity.peakEquity then equity.peakEquity - equity.currentEquity else 0
  refuse (n.equity ∧ exceedsInclusiveLimit drawdown cfg.maxDrawdown)
    (beyond "RISK_DRAWDOWN_LIMIT" "drawdown exceeds maxDrawdown")

/-- The notional of the order if it is needed; a rejection names the snapshot. -/
def orderNotional (cfg : PreTradeRiskConfig) (ctx : PreTradeRiskContext) (n : Needs) :
    Except Rejection ℚ :=
  if n.notional then
    (validateOrderNotional cfg ctx).mapError fun rejection =>
      let identity := ctx.authoritativeSnapshot.identity
      ⟨{ rejection.val with
          snapshotConnectionEpoch := identity.connectionEpoch
          snapshotGeneration := identity.generation }, rejection.property⟩
  else .ok 0

def evaluateChecks (cfg : PreTradeRiskConfig) (ctx : PreTradeRiskContext) :
    Except Rejection PreTradeRiskDecision := do
  checkAdmission cfg ctx
  let reducingExposure ← checkFlattenOnly cfg ctx
  checkPrices cfg ctx
  checkPolicy cfg
  let n := needs cfg reducingExposure
  let snapshot := ctx.authoritativeSnapshot
  refuse ((n.portfolioSnapshot ∨ n.notional) ∧ cfg.maxSnapshotAgeMs = 0)
    (reject "RISK_SNAPSHOT_FRESHNESS_POLICY_REQUIRED"
      "portfolio and notional limits require a positive maxSnapshotAgeMs")
  checkIf (n.snapshot cfg) (checkIdentity cfg ctx)
  checkIf n.exposure (checkExposure snapshot)
  checkIf n.pnl (checkPnl snapshot)
  checkIf n.equity (checkEquity snapshot)
  let notional ← orderNotional cfg ctx n
  let worstCaseGrossNotional :=
    if n.exposure then
      snapshot.exposure.currentGrossNotional + snapshot.exposure.pendingBuyNotional +
        snapshot.exposure.pendingSellNotional + notional
    else notional
  -- A verified flatten-only order is an exit path: the limits must not block it.
  checkIf (!reducingExposure) (checkLimits cfg snapshot n notional worstCaseGrossNotional)
  let identity := snapshot.identity
  .ok (allow notional worstCaseGrossNotional
    (if n.snapshot cfg then identity.connectionEpoch else 0)
    (if n.snapshot cfg then identity.generation else 0))

def evaluate (cfg : PreTradeRiskConfig) (ctx : PreTradeRiskContext) : PreTradeRiskDecision :=
  match evaluateChecks cfg ctx with
  | .ok decision => decision
  | .error rejection => rejection.val

/-! ### What an allowed order has passed -/

variable {cfg : PreTradeRiskConfig} {ctx : PreTradeRiskContext} {decision : PreTradeRiskDecision}

lemma eq_of_sameSubject {left right : PreTradeRiskSubject} (h : sameSubject left right = true) :
    left = right := by
  simp only [sameSubject, Bool.and_eq_true, decide_eq_true_eq] at h
  obtain ⟨⟨⟨⟨-, hp⟩, ha⟩, hv⟩, hc⟩ := h.1
  cases left
  cases right
  simp_all

lemma multiplier_of_sameInstrumentContract {left right : PreTradeRiskInstrumentContract}
    (h : sameInstrumentContract left right = true) : left.multiplier = right.multiplier := by
  simp only [sameInstrumentContract, Bool.and_eq_true, decide_eq_true_eq] at h
  exact h.1.2

/-- Where and when something was observed. -/
structure Observation where
  connectionEpoch : ℕ
  generation : ℕ
  observedAtMs : Int

def priceObservation (price : PreTradeRiskPriceEvidence) : Observation :=
  ⟨price.connectionEpoch, price.generation, price.observedAtMs⟩

def fxObservation (fx : PreTradeRiskFxEvidence) : Observation :=
  ⟨fx.connectionEpoch, fx.generation, fx.observedAtMs⟩

/-- An observation of the epoch and the generation of the snapshot whose age at the clock of the
decision is within the limit. -/
structure Used (cfg : PreTradeRiskConfig) (ctx : PreTradeRiskContext) (o : Observation) : Prop where
  epoch : o.connectionEpoch = ctx.authoritativeSnapshot.identity.connectionEpoch
  generation : o.generation = ctx.authoritativeSnapshot.identity.generation
  age_nonneg : 0 ≤ ctx.evaluatedAtMs - o.observedAtMs
  age_le : ctx.evaluatedAtMs - o.observedAtMs ≤ cfg.maxSnapshotAgeMs

lemma checkIdentity_ok (h : checkIdentity cfg ctx = .ok ()) :
    ctx.authoritativeSnapshot.identity.subject = ctx.authorizedSubject ∧
      ctx.authoritativeSnapshot.identity.evaluatedAtMs = ctx.evaluatedAtMs ∧
      ctx.evaluatedAtMs - ctx.authoritativeSnapshot.identity.observedAtMs ≤
        cfg.maxSnapshotAgeMs := by
  simp only [checkIdentity, bind_eq_ok, refuse_eq_ok, not_or, not_not] at h
  obtain ⟨-, -, -, ⟨-, ht⟩, -, ⟨hs, -⟩, ha⟩ := h
  refine ⟨(eq_of_sameSubject hs).symm, ht, ?_⟩
  rw [← ht]
  exact not_lt.mp ha

/-- What the evidence for the notional of the order says. -/
structure NotionalBound (cfg : PreTradeRiskConfig) (ctx : PreTradeRiskContext) (notional : ℚ) :
    Prop where
  subject : ctx.orderNotionalEvidence.subject = ctx.authoritativeSnapshot.identity.subject
  epoch : ctx.orderNotionalEvidence.connectionEpoch =
    ctx.authoritativeSnapshot.identity.connectionEpoch
  generation : ctx.orderNotionalEvidence.generation = ctx.authoritativeSnapshot.identity.generation
  multiplier : ctx.orderNotionalEvidence.contract.multiplier = ctx.instrumentContract.multiplier
  quantity : ctx.orderNotionalEvidence.quantity = ctx.totalQuantity
  quote : ctx.authoritativeSnapshot.identity.evaluatedAtMs = ctx.evaluatedAtMs →
    Used cfg ctx (priceObservation ctx.orderNotionalEvidence.quote)
  fx : ctx.authoritativeSnapshot.identity.evaluatedAtMs = ctx.evaluatedAtMs →
    Used cfg ctx (fxObservation ctx.orderNotionalEvidence.fx)
  le : ctx.orderNotionalEvidence.quantity * ctx.orderNotionalEvidence.contract.multiplier *
      (if ctx.orderType = "LMT" then max ctx.limitPrice ctx.orderNotionalEvidence.quote.price
        else ctx.orderNotionalEvidence.quote.price) *
      ctx.orderNotionalEvidence.fx.rate ≤ notional

lemma generation_of_sameGeneration {generation : ℕ} {identity : PreTradeRiskSnapshotIdentity}
    (h : sameGeneration generation identity = true) : generation = identity.generation := by
  simp only [sameGeneration, Bool.and_eq_true, decide_eq_true_eq] at h
  exact h.2

lemma used_of_freshEvidence {o : Observation}
    (he : o.connectionEpoch = ctx.authoritativeSnapshot.identity.connectionEpoch)
    (hg : sameGeneration o.generation ctx.authoritativeSnapshot.identity = true)
    (hf : freshEvidence o.observedAtMs ctx.authoritativeSnapshot.identity
      cfg.maxSnapshotAgeMs = true)
    (hc : ctx.authoritativeSnapshot.identity.evaluatedAtMs = ctx.evaluatedAtMs) :
    Used cfg ctx o := by
  simp only [freshEvidence, hc, Bool.and_eq_true, decide_eq_true_eq] at hf
  exact ⟨he, generation_of_sameGeneration hg, by omega, hf.2⟩

lemma validateOrderNotional_ok {notional : ℚ} (h : validateOrderNotional cfg ctx = .ok notional) :
    NotionalBound cfg ctx notional := by
  simp only [validateOrderNotional, bind_eq_ok, refuse_eq_ok, not_or, not_not] at h
  obtain ⟨-, -, -, hs, -, ⟨he, hg⟩, -, ⟨hc, -, hy⟩, -, ⟨-, -, -, -, hqp, ht,
    -, -⟩, -, hq, -, ⟨-, -, -, -, hp, hx, -, -⟩, -, hf, -, -, -, -, -, -, hr⟩ := h
  exact
    { subject := eq_of_sameSubject hs
      epoch := he
      generation := generation_of_sameGeneration hg
      multiplier := (multiplier_of_sameInstrumentContract hc).symm
      quantity := hy
      quote := used_of_freshEvidence hqp ht hq
      fx := used_of_freshEvidence hp hx hf
      le := by
        rw [← Except.ok.inj hr]
        exact le_max_left _ _ }

lemma exists_of_allow (h : (evaluate cfg ctx).allow = true) :
    ∃ decision, evaluateChecks cfg ctx = .ok decision := by
  unfold evaluate at h
  cases hc : evaluateChecks cfg ctx with
  | ok decision => exact ⟨decision, rfl⟩
  | error rj =>
    rw [hc] at h
    simp [rj.property] at h

lemma checkFlattenOnly_ok {reducing : Bool} (h : checkFlattenOnly cfg ctx = .ok reducing) :
    (cfg.flattenOnly = true → isFlatteningOrder ctx = true) ∧ reducing = cfg.flattenOnly := by
  unfold checkFlattenOnly at h
  cases hm : cfg.flattenOnly with
  | true =>
    rw [hm, if_pos rfl] at h
    simp only [bind_eq_ok, refuse_eq_ok, not_not] at h
    obtain ⟨-, -, -, hf, hr⟩ := h
    exact ⟨fun _ => hf, (Except.ok.inj hr).symm⟩
  | false =>
    rw [hm] at h
    exact ⟨by simp, (Except.ok.inj h).symm⟩

lemma checkLimits_ok {n : Needs} {notional worst : ℚ}
    (h : checkLimits cfg ctx.authoritativeSnapshot n notional worst = .ok ())
    (hn : n.exposure = true) : worst ≤ cfg.maxWorstCaseGrossNotional := by
  simp only [checkLimits, bind_eq_ok, refuse_eq_ok, not_and] at h
  obtain ⟨-, -, -, hw, -⟩ := h
  simpa [exceedsInclusiveLimit] using hw hn

lemma evaluateChecks_ok (h : evaluateChecks cfg ctx = .ok decision)
    (hm : cfg.flattenOnly = false) (hl : 0 < cfg.maxWorstCaseGrossNotional) :
    checkIdentity cfg ctx = .ok () ∧ ∃ notional, NotionalBound cfg ctx notional ∧
      ctx.authoritativeSnapshot.exposure.currentGrossNotional +
        ctx.authoritativeSnapshot.exposure.pendingBuyNotional +
        ctx.authoritativeSnapshot.exposure.pendingSellNotional + notional ≤
          cfg.maxWorstCaseGrossNotional := by
  simp only [evaluateChecks, bind_eq_ok, checkIf_eq_ok] at h
  obtain ⟨-, -, reducing, hf, -, -, -, -, -, -, -, hi, -, -, -, -, -, -, notional, ht,
    -, hlm, -⟩ := h
  obtain rfl : reducing = false := by rw [(checkFlattenOnly_ok hf).2, hm]
  have he : (needs cfg false).exposure = true := by simp [needs, limitEnabled, hl]
  have hd : (needs cfg false).notional = true := by simp [needs, limitEnabled, hl]
  refine ⟨hi (by simp [Needs.snapshot, hd]), notional, ?_, ?_⟩
  · apply validateOrderNotional_ok
    rw [orderNotional, if_pos hd] at ht
    cases hv : validateOrderNotional cfg ctx with
    | ok =>
      rw [hv] at ht
      rw [Except.ok.inj ht]
    | error => simp [hv, Except.mapError] at ht
  · have hw := checkLimits_ok (hlm rfl) he
    rwa [if_pos he] at hw

def afterPosition (ctx : PreTradeRiskContext) : ℚ :=
  if ctx.action = "BUY" then ctx.netPosition + ctx.totalQuantity
  else ctx.netPosition - ctx.totalQuantity

lemma isFlatteningOrder_spec (h : isFlatteningOrder ctx = true) :
    (ctx.action = "BUY" ∨ ctx.action = "SELL") ∧ |afterPosition ctx| < |ctx.netPosition| ∧
      0 ≤ afterPosition ctx * ctx.netPosition := by
  unfold isFlatteningOrder at h
  by_cases hq : ctx.totalQuantity ≤ 0
  · simp [hq] at h
  rw [if_neg hq] at h
  by_cases hl : 0 < ctx.netPosition
  · rw [if_pos hl] at h
    simp only [Bool.and_eq_true, decide_eq_true_eq] at h
    obtain ⟨⟨ha, hf⟩, hls⟩ := h
    have hx : afterPosition ctx = ctx.netPosition - ctx.totalQuantity := by
      simp [afterPosition, ha]
    rw [hx, abs_of_nonneg hf, abs_of_pos hl]
    exact ⟨.inr ha, hls, mul_nonneg hf hl.le⟩
  rw [if_neg hl] at h
  by_cases hs : ctx.netPosition < 0
  · rw [if_pos hs] at h
    simp only [Bool.and_eq_true, decide_eq_true_eq] at h
    obtain ⟨⟨ha, hf⟩, hls⟩ := h
    have hx : afterPosition ctx = ctx.netPosition + ctx.totalQuantity := by
      simp [afterPosition, ha]
    rw [hx, abs_of_nonpos hf, abs_of_neg hs]
    exact ⟨.inl ha, neg_lt_neg hls, mul_nonneg_of_nonpos_of_nonpos hf hs.le⟩
  · simp [hs] at h

end PreTradeRiskEngine

end Hepta
