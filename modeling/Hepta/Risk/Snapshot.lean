import Mathlib.Algebra.BigOperators.Group.List.Basic
import Mathlib.Data.Finset.Card
import Mathlib.Tactic.Ring
import Hepta.Library.Map
import Hepta.Risk.Engine

/-!
# The risk snapshot of a portfolio

`PortfolioRiskSnapshotBuilder` adds up the positions and the pending orders of a portfolio from
evidence of one epoch and one generation, and keeps the time of its oldest observation. The engine
decides on the sums only; the main theorem says what an allowed order means for the rows.
-/

namespace Hepta

open List Checked PreTradeRiskEngine

structure PortfolioRiskValuationInput where
  contract : PreTradeRiskInstrumentContract := {}
  authorizedQuoteSourceId : String := ""
  authorizedFxSourceId : String := ""
  netQuantity : ℚ := 0
  mark : PreTradeRiskPriceEvidence := {}
  fx : PreTradeRiskFxEvidence := {}
  deriving DecidableEq, Repr

structure PortfolioRiskPendingOrderInput where
  orderId : String := ""
  contract : PreTradeRiskInstrumentContract := {}
  authorizedQuoteSourceId : String := ""
  authorizedFxSourceId : String := ""
  side : String := ""
  quantity : ℚ := 0
  limitPrice : ℚ := 0
  quote : PreTradeRiskPriceEvidence := {}
  fx : PreTradeRiskFxEvidence := {}
  deriving DecidableEq, Repr

structure PortfolioRiskSnapshotSetIdentity where
  subject : PreTradeRiskSubject := {}
  complete : Bool := false
  connectionEpoch : ℕ := 0
  generation : ℕ := 0
  observedAtMs : Int := 0
  deriving DecidableEq

structure PortfolioRiskAccountInput where
  subject : PreTradeRiskSubject := {}
  complete : Bool := false
  baseCurrency : String := ""
  connectionEpoch : ℕ := 0
  generation : ℕ := 0
  observedAtMs : Int := 0
  realizedPnl : ℚ := 0
  unrealizedPnl : ℚ := 0
  peakEquity : ℚ := 0
  currentEquity : ℚ := 0
  deriving DecidableEq

structure PortfolioRiskSnapshotBuildRequest where
  subject : PreTradeRiskSubject := {}
  connectionEpoch : ℕ := 0
  generation : ℕ := 0
  evaluatedAtMs : Int := 0
  maxEvidenceAgeMs : Int := 0
  positionsIdentity : PortfolioRiskSnapshotSetIdentity := {}
  pendingOrdersIdentity : PortfolioRiskSnapshotSetIdentity := {}
  positions : List PortfolioRiskValuationInput := []
  pendingOrders : List PortfolioRiskPendingOrderInput := []
  account : PortfolioRiskAccountInput := {}

structure PortfolioRiskSnapshotBuildResult where
  ok : Bool := false
  reasonCode : String := ""
  detail : String := ""
  snapshot : PreTradeRiskAuthoritativeSnapshot := {}

namespace PortfolioRiskSnapshotBuilder

abbrev Rejection := { result : PortfolioRiskSnapshotBuildResult // result.ok = false }

def reject (code detail : String) : Rejection := ⟨{ reasonCode := code, detail }, rfl⟩

/-! ### Evidence -/

def fresh (observedAtMs : Int) (request : PortfolioRiskSnapshotBuildRequest) : Bool :=
  decide (0 < observedAtMs) && decide (observedAtMs ≤ request.evaluatedAtMs) &&
    decide (request.evaluatedAtMs - observedAtMs ≤ request.maxEvidenceAgeMs)

def validSetIdentity (identity : PortfolioRiskSnapshotSetIdentity)
    (request : PortfolioRiskSnapshotBuildRequest) : Bool :=
  identity.complete && sameSubject identity.subject request.subject &&
    identity.connectionEpoch = request.connectionEpoch &&
    identity.generation = request.generation && fresh identity.observedAtMs request

def validPrice (price : PreTradeRiskPriceEvidence) (contract : PreTradeRiskInstrumentContract)
    (expectedSource : String) (request : PortfolioRiskSnapshotBuildRequest) : Bool :=
  expectedSource ≠ "" && price.sourceId = expectedSource &&
    price.instrument = contract.instrument && price.currency = contract.quoteCurrency &&
    price.connectionEpoch = request.connectionEpoch && price.generation = request.generation &&
    decide (0 < price.price) && fresh price.observedAtMs request

def validFx (fx : PreTradeRiskFxEvidence) (contract : PreTradeRiskInstrumentContract)
    (expectedSource : String) (request : PortfolioRiskSnapshotBuildRequest) : Bool :=
  expectedSource ≠ "" && fx.sourceId = expectedSource && fx.fromCurrency = contract.quoteCurrency &&
    fx.toCurrency = request.subject.baseCurrency &&
    fx.connectionEpoch = request.connectionEpoch && fx.generation = request.generation &&
    decide (0 < fx.rate) && (fx.fromCurrency ≠ fx.toCurrency || fx.rate = 1) &&
    fresh fx.observedAtMs request

/-- `std::numeric_limits<double>::max()`. -/
def maxDouble : ℚ := (2 ^ 53 - 1) * 2 ^ 971

/-- The total with one more amount. -/
def addNotional (quantity : ℚ) (contract : PreTradeRiskInstrumentContract) (price fxRate : ℚ)
    (total : ℚ) : Option ℚ :=
  let amount := quantity * contract.multiplier * price * fxRate
  if quantity < 0 ∨ price ≤ 0 ∨ fxRate ≤ 0 then none
  else if amount < 0 ∨ maxDouble - amount < total then none
  else some (total + amount)

structure InstrumentAuthority where
  contract : PreTradeRiskInstrumentContract
  quoteSource : String
  fxSource : String

/-! ### The loops -/

/-- What the loop over the positions adds up. -/
structure Valued where
  currentGross : ℚ := 0
  authority : Dict String InstrumentAuthority := ∅
  oldestObservedAtMs : Int

def valuePosition (request : PortfolioRiskSnapshotBuildRequest) (acc : Valued)
    (row : PortfolioRiskValuationInput) : Except Rejection Valued := do
  refuse (¬validInstrumentContract row.contract ∨
      row.contract.instrument ∉ request.subject.instruments)
    (reject "PORTFOLIO_RISK_CONTRACT_INVALID"
      "position contract is unsupported or outside the authorized subject")
  refuse (row.contract.instrument ∈ acc.authority)
    (reject "PORTFOLIO_RISK_POSITION_DUPLICATE"
      "position valuation contains a duplicate instrument")
  refuse (row.authorizedQuoteSourceId = "" ∨ row.authorizedFxSourceId = "" ∨
      ¬validPrice row.mark row.contract row.authorizedQuoteSourceId request ∨
      ¬validFx row.fx row.contract row.authorizedFxSourceId request)
    (reject "PORTFOLIO_RISK_VALUATION_EVIDENCE_INVALID"
      "position quote/FX evidence is stale, untrusted or identity-mismatched")
  match addNotional |row.netQuantity| row.contract row.mark.price row.fx.rate acc.currentGross with
  | none => .error (reject "PORTFOLIO_RISK_NOTIONAL_OVERFLOW"
      "position base-currency notional overflowed")
  | some currentGross =>
    .ok
      { currentGross
        authority := acc.authority.insert row.contract.instrument
          ⟨row.contract, row.authorizedQuoteSourceId, row.authorizedFxSourceId⟩
        oldestObservedAtMs :=
          min acc.oldestObservedAtMs (min row.mark.observedAtMs row.fx.observedAtMs) }

/-- What the loop over the pending orders adds up. -/
structure Pending where
  pendingBuy : ℚ := 0
  pendingSell : ℚ := 0
  pendingOrderIds : Finset String := ∅
  oldestObservedAtMs : Int

def valuePending (request : PortfolioRiskSnapshotBuildRequest)
    (authority : Dict String InstrumentAuthority) (acc : Pending)
    (order : PortfolioRiskPendingOrderInput) : Except Rejection Pending := do
  refuse (order.orderId = "" ∨ order.orderId ∈ acc.pendingOrderIds)
    (reject "PORTFOLIO_RISK_PENDING_ORDER_IDENTITY_INVALID"
      "pending orders require unique stable identities")
  let bound := (authority.lookup order.contract.instrument).any fun found =>
    sameInstrumentContract found.contract order.contract &&
      order.authorizedQuoteSourceId = found.quoteSource &&
      order.authorizedFxSourceId = found.fxSource
  refuse (¬bound) (reject "PORTFOLIO_RISK_PENDING_CONTRACT_INVALID"
    "pending order must use the exact authorized instrument/source binding")
  refuse ((order.side ≠ "BUY" ∧ order.side ≠ "SELL") ∨ order.quantity ≤ 0 ∨ order.limitPrice ≤ 0)
    (reject "PORTFOLIO_RISK_PENDING_ORDER_INVALID"
      "pending order side, quantity and limit price must be valid")
  refuse (¬validPrice order.quote order.contract order.authorizedQuoteSourceId request ∨
      ¬validFx order.fx order.contract order.authorizedFxSourceId request)
    (reject "PORTFOLIO_RISK_PENDING_EVIDENCE_INVALID"
      "pending order quote/FX evidence is stale, untrusted or identity-mismatched")
  let riskPrice := max order.limitPrice order.quote.price
  let buying := order.side = "BUY"
  match addNotional order.quantity order.contract riskPrice order.fx.rate
      (if buying then acc.pendingBuy else acc.pendingSell) with
  | none => .error (reject "PORTFOLIO_RISK_NOTIONAL_OVERFLOW"
      "pending base-currency notional overflowed")
  | some total =>
    .ok
      { pendingBuy := if buying then total else acc.pendingBuy
        pendingSell := if buying then acc.pendingSell else total
        pendingOrderIds := insert order.orderId acc.pendingOrderIds
        oldestObservedAtMs :=
          min acc.oldestObservedAtMs (min order.quote.observedAtMs order.fx.observedAtMs) }

/-! ### The snapshot -/

def checkRequest (request : PortfolioRiskSnapshotBuildRequest) : Except Rejection Unit := do
  refuse (¬validSubject request.subject) (reject "PORTFOLIO_RISK_SUBJECT_INVALID"
    "portfolio subject must bind portfolio/account/venue/base currency and instruments")
  refuse (request.connectionEpoch = 0 ∨ request.generation = 0 ∨ request.evaluatedAtMs ≤ 0 ∨
      request.maxEvidenceAgeMs ≤ 0)
    (reject "PORTFOLIO_RISK_IDENTITY_INVALID"
      "epoch, generation, evaluation time and evidence age must be positive")
  refuse (¬request.positionsIdentity.complete ∨
      request.positions.length ≠ request.subject.instruments.card)
    (reject "PORTFOLIO_RISK_POSITION_SET_INCOMPLETE"
      ("a complete position snapshot with exactly one valuation row per authorized instrument " ++
        "is required"))
  refuse (¬validSetIdentity request.positionsIdentity request)
    (reject "PORTFOLIO_RISK_POSITION_SET_IDENTITY_INVALID"
      ("position snapshot must bind the exact subject, epoch, generation and fresh observation " ++
        "time"))
  refuse (¬request.pendingOrdersIdentity.complete)
    (reject "PORTFOLIO_RISK_PENDING_SET_INCOMPLETE"
      "pending-order snapshot completeness must be explicit even when the set is empty")
  refuse (¬validSetIdentity request.pendingOrdersIdentity request)
    (reject "PORTFOLIO_RISK_PENDING_SET_IDENTITY_INVALID"
      ("pending-order snapshot must bind the exact subject, epoch, generation and fresh " ++
        "observation time"))

def checkAccount (request : PortfolioRiskSnapshotBuildRequest) : Except Rejection Unit :=
  let account := request.account
  refuse (¬account.complete ∨ ¬sameSubject account.subject request.subject ∨
      account.baseCurrency ≠ request.subject.baseCurrency ∨
      account.connectionEpoch ≠ request.connectionEpoch ∨
      account.generation ≠ request.generation ∨ ¬fresh account.observedAtMs request ∨
      account.peakEquity < 0 ∨ account.currentEquity < 0 ∨
      account.peakEquity < account.currentEquity)
    (reject "PORTFOLIO_RISK_ACCOUNT_EVIDENCE_INVALID"
      ("account PnL/equity evidence is incomplete, stale, mixed-generation or inconsistent"))

def snapshotOf (request : PortfolioRiskSnapshotBuildRequest) (includeAccount : Bool)
    (valued : Valued) (pending : Pending) : PreTradeRiskAuthoritativeSnapshot :=
  let account := request.account
  let part : PreTradeRiskSection :=
    { subject := request.subject
      present := true
      connectionEpoch := request.connectionEpoch
      generation := request.generation }
  { identity :=
      { subject := request.subject
        present := true
        complete := true
        connectionEpoch := request.connectionEpoch
        generation := request.generation
        observedAtMs :=
          if includeAccount then min pending.oldestObservedAtMs account.observedAtMs
          else pending.oldestObservedAtMs
        evaluatedAtMs := request.evaluatedAtMs }
    exposure :=
      { part with
        currentGrossNotional := valued.currentGross
        pendingBuyNotional := pending.pendingBuy
        pendingSellNotional := pending.pendingSell }
    pnl :=
      if includeAccount then
        { part with realizedPnl := account.realizedPnl, unrealizedPnl := account.unrealizedPnl }
      else {}
    equity :=
      if includeAccount then
        { part with peakEquity := account.peakEquity, currentEquity := account.currentEquity }
      else {} }

def buildChecks (request : PortfolioRiskSnapshotBuildRequest) (includeAccount : Bool) :
    Except Rejection PreTradeRiskAuthoritativeSnapshot := do
  checkRequest request
  let valued ← request.positions.foldlM (valuePosition request)
    { oldestObservedAtMs := min request.positionsIdentity.observedAtMs
        request.pendingOrdersIdentity.observedAtMs }
  let pending ← request.pendingOrders.foldlM (valuePending request valued.authority)
    { oldestObservedAtMs := valued.oldestObservedAtMs }
  checkIf includeAccount (checkAccount request)
  .ok (snapshotOf request includeAccount valued pending)

def buildSnapshot (request : PortfolioRiskSnapshotBuildRequest) (includeAccount : Bool) :
    PortfolioRiskSnapshotBuildResult :=
  match buildChecks request includeAccount with
  | .ok snapshot =>
    { ok := true
      reasonCode :=
        if includeAccount then "PORTFOLIO_RISK_SNAPSHOT_OK" else "PORTFOLIO_RISK_EXPOSURE_OK"
      snapshot }
  | .error rejection => rejection.val

def build (request : PortfolioRiskSnapshotBuildRequest) : PortfolioRiskSnapshotBuildResult :=
  buildSnapshot request true

def buildExposure (request : PortfolioRiskSnapshotBuildRequest) :
    PortfolioRiskSnapshotBuildResult :=
  buildSnapshot request false

/-! ### What the rows are worth -/

variable {request : PortfolioRiskSnapshotBuildRequest} {contract : PreTradeRiskInstrumentContract}
  {start : Int} {includeAccount : Bool} {source : String}

def positionNotional (row : PortfolioRiskValuationInput) : ℚ :=
  |row.netQuantity| * row.contract.multiplier * row.mark.price * row.fx.rate

def pendingNotional (order : PortfolioRiskPendingOrderInput) : ℚ :=
  order.quantity * order.contract.multiplier * max order.limitPrice order.quote.price *
    order.fx.rate

lemma addNotional_eq_some {q price fxRate total total' : ℚ}
    (h : addNotional q contract price fxRate total = some total') :
    total' = total + q * contract.multiplier * price * fxRate := by
  unfold addNotional at h
  dsimp only at h
  split at h
  · simp at h
  split at h
  · simp at h
  · exact (Option.some.inj h).symm

/-- Evidence of the epoch and the generation of the request that is not from the future. -/
structure Current (request : PortfolioRiskSnapshotBuildRequest) (o : Observation) : Prop where
  epoch : o.connectionEpoch = request.connectionEpoch
  generation : o.generation = request.generation
  observed : o.observedAtMs ≤ request.evaluatedAtMs

def setObservation (identity : PortfolioRiskSnapshotSetIdentity) : Observation :=
  ⟨identity.connectionEpoch, identity.generation, identity.observedAtMs⟩

/-- Everything that a snapshot is built from, apart from the account. -/
def observations (request : PortfolioRiskSnapshotBuildRequest) : List Observation :=
  [setObservation request.positionsIdentity, setObservation request.pendingOrdersIdentity] ++
    request.positions.flatMap (fun row => [priceObservation row.mark, fxObservation row.fx]) ++
    request.pendingOrders.flatMap fun order =>
      [priceObservation order.quote, fxObservation order.fx]

lemma current_of_validPrice {price : PreTradeRiskPriceEvidence}
    (h : validPrice price contract source request = true) :
    Current request (priceObservation price) := by
  simp only [validPrice, fresh, Bool.and_eq_true, decide_eq_true_eq] at h
  obtain ⟨⟨⟨⟨-, he⟩, hgeneration⟩, -⟩, ⟨-, ho⟩, -⟩ := h
  exact ⟨he, hgeneration, ho⟩

lemma current_of_validFx {fx : PreTradeRiskFxEvidence}
    (h : validFx fx contract source request = true) : Current request (fxObservation fx) := by
  simp only [validFx, fresh, Bool.and_eq_true, decide_eq_true_eq] at h
  obtain ⟨⟨⟨⟨⟨-, he⟩, hgeneration⟩, -⟩, -⟩, ⟨-, ho⟩, -⟩ := h
  exact ⟨he, hgeneration, ho⟩

lemma current_of_validSetIdentity {identity : PortfolioRiskSnapshotSetIdentity}
    (h : validSetIdentity identity request = true) :
    identity.subject = request.subject ∧ Current request (setObservation identity) := by
  simp only [validSetIdentity, fresh, Bool.and_eq_true, decide_eq_true_eq] at h
  obtain ⟨⟨⟨⟨-, hs⟩, hepoch⟩, hgeneration⟩, ⟨-, ho⟩, -⟩ := h
  exact ⟨eq_of_sameSubject hs, hepoch, hgeneration, ho⟩

/-- The positions that the loop has added up. -/
structure Valued.Holds (request : PortfolioRiskSnapshotBuildRequest) (start : Int)
    (done : List PortfolioRiskValuationInput) (acc : Valued) : Prop where
  gross : acc.currentGross = (done.map positionNotional).sum
  keys : ∀ i, i ∈ acc.authority ↔ i ∈ done.map fun row => row.contract.instrument
  nodup : (done.map fun row => row.contract.instrument).Nodup
  subject : ∀ row ∈ done, row.contract.instrument ∈ request.subject.instruments
  oldest : acc.oldestObservedAtMs ≤ start
  mark : ∀ row ∈ done, Current request (priceObservation row.mark) ∧
    acc.oldestObservedAtMs ≤ row.mark.observedAtMs
  fx : ∀ row ∈ done, Current request (fxObservation row.fx) ∧
    acc.oldestObservedAtMs ≤ row.fx.observedAtMs

lemma Valued.Holds.step {done : List PortfolioRiskValuationInput} {acc acc' : Valued}
    {row : PortfolioRiskValuationInput} (h : acc.Holds request start done)
    (hs : valuePosition request acc row = .ok acc') : acc'.Holds request start (done ++ [row]) := by
  simp only [valuePosition, bind_eq_ok, refuse_eq_ok, not_or, not_not] at hs
  obtain ⟨-, ⟨-, hb⟩, -, hnew, -, ⟨-, -, hm, hf⟩, ha⟩ := hs
  split at ha
  · simp at ha
  next gross hg =>
    obtain rfl := Except.ok.inj ha
    have hm := current_of_validPrice hm
    have hf := current_of_validFx hf
    exact
      { gross := by
          rw [addNotional_eq_some hg, h.gross]
          simp [positionNotional]
        keys := fun i => by
          rw [AList.mem_insert, h.keys]
          simp [or_comm, eq_comm]
        nodup := by
          rw [map_append, nodup_append_comm]
          exact List.nodup_cons.mpr ⟨fun hmm => hnew ((h.keys _).mpr hmm), h.nodup⟩
        subject := by
          simpa [or_imp, forall_and] using And.intro h.subject hb
        oldest := (min_le_left _ _).trans h.oldest
        mark := by
          have := h.mark
          simp only [mem_append, mem_singleton]
          grind
        fx := by
          have := h.fx
          simp only [mem_append, mem_singleton]
          grind }

/-- The pending orders that the loop has added up. -/
structure Pending.Holds (request : PortfolioRiskSnapshotBuildRequest) (start : Int)
    (done : List PortfolioRiskPendingOrderInput) (acc : Pending) : Prop where
  total : acc.pendingBuy + acc.pendingSell = (done.map pendingNotional).sum
  oldest : acc.oldestObservedAtMs ≤ start
  quote : ∀ order ∈ done, Current request (priceObservation order.quote) ∧
    acc.oldestObservedAtMs ≤ order.quote.observedAtMs
  fx : ∀ order ∈ done, Current request (fxObservation order.fx) ∧
    acc.oldestObservedAtMs ≤ order.fx.observedAtMs

lemma Pending.Holds.step {authority : Dict String InstrumentAuthority}
    {done : List PortfolioRiskPendingOrderInput} {acc acc' : Pending}
    {order : PortfolioRiskPendingOrderInput} (h : acc.Holds request start done)
    (hs : valuePending request authority acc order = .ok acc') :
    acc'.Holds request start (done ++ [order]) := by
  simp only [valuePending, bind_eq_ok, refuse_eq_ok, not_or, not_not] at hs
  obtain ⟨-, -, -, -, -, -, -, ⟨hq, hf⟩, ha⟩ := hs
  split at ha
  · simp at ha
  next total ht =>
    obtain rfl := Except.ok.inj ha
    have hq := current_of_validPrice hq
    have hf := current_of_validFx hf
    exact
      { total := by
          rw [map_append, sum_append, ← h.total, addNotional_eq_some ht]
          by_cases hb : order.side = "BUY"
          · simp only [hb, if_true, map_singleton, sum_singleton, pendingNotional]
            ring
          · simp only [hb, if_false, map_singleton, sum_singleton, pendingNotional]
            ring
        oldest := (min_le_left _ _).trans h.oldest
        quote := by
          have := h.quote
          simp only [mem_append, mem_singleton]
          grind
        fx := by
          have := h.fx
          simp only [mem_append, mem_singleton]
          grind }

structure Built (request : PortfolioRiskSnapshotBuildRequest)
    (snapshot : PreTradeRiskAuthoritativeSnapshot) : Prop where
  subject : snapshot.identity.subject = request.subject
  epoch : snapshot.identity.connectionEpoch = request.connectionEpoch
  generation : snapshot.identity.generation = request.generation
  evaluated : snapshot.identity.evaluatedAtMs = request.evaluatedAtMs
  valued : (request.positions.map fun row => row.contract.instrument : Multiset String) =
    request.subject.instruments.val
  gross : snapshot.exposure.currentGrossNotional = (request.positions.map positionNotional).sum
  pending : snapshot.exposure.pendingBuyNotional + snapshot.exposure.pendingSellNotional =
    (request.pendingOrders.map pendingNotional).sum
  /-- All evidence is of the request, and none of it is older than the snapshot. -/
  evidence : ∀ o ∈ observations request, Current request o ∧
    snapshot.identity.observedAtMs ≤ o.observedAtMs
  sets : request.positionsIdentity.subject = request.subject ∧
    request.pendingOrdersIdentity.subject = request.subject

lemma checkRequest_ok (h : checkRequest request = .ok ()) :
    request.positions.length = request.subject.instruments.card ∧
      validSetIdentity request.positionsIdentity request = true ∧
      validSetIdentity request.pendingOrdersIdentity request = true := by
  simp only [checkRequest, bind_eq_ok, refuse_eq_ok, not_or, not_not] at h
  obtain ⟨-, -, -, -, -, ⟨-, hl⟩, -, hs, -, -, hp⟩ := h
  exact ⟨hl, hs, hp⟩

lemma Valued.Holds.valued {acc : Valued}
    (h : acc.Holds request start request.positions)
    (hl : request.positions.length = request.subject.instruments.card) :
    (request.positions.map fun row => row.contract.instrument : Multiset String) =
      request.subject.instruments.val := by
  let rows : Finset String :=
    ⟨request.positions.map fun row => row.contract.instrument, Multiset.coe_nodup.mpr h.nodup⟩
  have hs : rows ⊆ request.subject.instruments := by
    intro i hi
    obtain ⟨row, hr, rfl⟩ := List.mem_map.mp hi
    exact h.subject row hr
  have hc : rows.card = request.positions.length := by simp [rows]
  have heq := Finset.eq_of_subset_of_card_le hs (by omega)
  exact congrArg Finset.val heq

lemma buildChecks_ok {snapshot : PreTradeRiskAuthoritativeSnapshot}
    (h : buildChecks request includeAccount = .ok snapshot) : Built request snapshot := by
  simp only [buildChecks, bind_eq_ok] at h
  obtain ⟨⟨⟩, hrq, valued, hv, pending, hp, -, -, hsn⟩ := h
  obtain rfl := Except.ok.inj hsn
  obtain ⟨hl, hps, hod⟩ := checkRequest_ok hrq
  have hv : valued.Holds request _ request.positions :=
    foldlM_ok hv ⟨by simp, by simp, by simp, by simp, le_rfl, by simp, by simp⟩
      fun _ _ _ _ hd ht => hd.step ht
  have hp : pending.Holds request _ request.pendingOrders :=
    foldlM_ok hp ⟨by simp, le_rfl, by simp, by simp⟩
      fun _ _ _ _ hd ht => hd.step ht
  have hs := current_of_validSetIdentity hps
  have hs' := current_of_validSetIdentity hod
  have hb : (snapshotOf request includeAccount valued pending).identity.observedAtMs ≤
      pending.oldestObservedAtMs := by
    cases includeAccount <;> simp [snapshotOf]
  refine ⟨rfl, rfl, rfl, rfl, hv.valued hl, hv.gross, hp.total, ?_, hs.1, hs'.1⟩
  intro o ho
  have hpn : pending.oldestObservedAtMs ≤ valued.oldestObservedAtMs := hp.oldest
  have hvl := le_min_iff.mp hv.oldest
  simp only [observations, mem_append, mem_cons, not_mem_nil, or_false, mem_flatMap] at ho
  rcases ho with ((rfl | rfl) | ⟨row, hr, rfl | rfl⟩) | ⟨order, hor, rfl | rfl⟩
  · exact ⟨hs.2, by simp only [setObservation]; omega⟩
  · exact ⟨hs'.2, by simp only [setObservation]; omega⟩
  · have hm := hv.mark row hr
    exact ⟨hm.1, by simp only [priceObservation]; omega⟩
  · have hf := hv.fx row hr
    exact ⟨hf.1, by simp only [fxObservation]; omega⟩
  · have hq := hp.quote order hor
    exact ⟨hq.1, by simp only [priceObservation]; omega⟩
  · have hf := hp.fx order hor
    exact ⟨hf.1, by simp only [fxObservation]; omega⟩

lemma built_of_ok (h : (buildSnapshot request includeAccount).ok = true) :
    Built request (buildSnapshot request includeAccount).snapshot := by
  unfold buildSnapshot at h ⊢
  cases hc : buildChecks request includeAccount with
  | ok => exact buildChecks_ok hc
  | error rj =>
    rw [hc] at h
    simp [rj.property] at h

/-! ### What an allowed order means -/

variable {cfg : PreTradeRiskConfig} {ctx : PreTradeRiskContext}

def candidateNotional (ctx : PreTradeRiskContext) : ℚ :=
  let evidence := ctx.orderNotionalEvidence
  ctx.totalQuantity * ctx.instrumentContract.multiplier *
    (if ctx.orderType = "LMT" then max ctx.limitPrice evidence.quote.price
      else evidence.quote.price) *
    evidence.fx.rate

/-- The order keeps the portfolio within the limit, by evidence that belongs together. -/
structure WithinLimit (request : PortfolioRiskSnapshotBuildRequest) (cfg : PreTradeRiskConfig)
    (ctx : PreTradeRiskContext) : Prop where
  limit : (request.positions.map positionNotional).sum +
    (request.pendingOrders.map pendingNotional).sum + candidateNotional ctx ≤
      cfg.maxWorstCaseGrossNotional
  valued : (request.positions.map fun row => row.contract.instrument : Multiset String) =
    ctx.authorizedSubject.instruments.val
  subjects : ∀ subject ∈ [request.subject, request.positionsIdentity.subject,
    request.pendingOrdersIdentity.subject, ctx.orderNotionalEvidence.subject],
      subject = ctx.authorizedSubject
  notional : ctx.orderNotionalEvidence.connectionEpoch =
      ctx.authoritativeSnapshot.identity.connectionEpoch ∧
    ctx.orderNotionalEvidence.generation = ctx.authoritativeSnapshot.identity.generation
  evidence : ∀ o ∈ priceObservation ctx.orderNotionalEvidence.quote ::
    fxObservation ctx.orderNotionalEvidence.fx :: observations request, Used cfg ctx o

lemma WithinLimit.of_built {notional : ℚ} (h : Built request ctx.authoritativeSnapshot)
    (hi : checkIdentity cfg ctx = .ok ()) (ht : NotionalBound cfg ctx notional)
    (hl : ctx.authoritativeSnapshot.exposure.currentGrossNotional +
      ctx.authoritativeSnapshot.exposure.pendingBuyNotional +
      ctx.authoritativeSnapshot.exposure.pendingSellNotional + notional ≤
        cfg.maxWorstCaseGrossNotional) : WithinLimit request cfg ctx := by
  obtain ⟨hs, hc, ha⟩ := checkIdentity_ok hi
  have hr : request.subject = ctx.authorizedSubject := by rw [← h.subject, hs]
  have hcn : candidateNotional ctx ≤ notional := by
    have he := ht.le
    rwa [ht.quantity, ht.multiplier] at he
  refine ⟨?_, ?_, ?_, ⟨ht.epoch, ht.generation⟩, ?_⟩
  · rw [← h.gross, ← h.pending]
    linarith
  · rw [h.valued, hr]
  · simp [hr, h.sets.1, h.sets.2, ht.subject, hs]
  · simp only [mem_cons]
    rintro o (rfl | rfl | ho)
    · exact ht.quote hc
    · exact ht.fx hc
    · obtain ⟨hcr, hol⟩ := h.evidence o ho
      have hb := hcr.observed
      rw [← h.evaluated, hc] at hb
      exact ⟨by rw [hcr.epoch, h.epoch], by rw [hcr.generation, h.generation], by omega,
        by omega⟩

/-- An allowed order keeps within the limit on the gross notional, and in the flatten-only mode it
reduces the position. -/
theorem pre_trade_risk_sound (request : PortfolioRiskSnapshotBuildRequest)
    (cfg : PreTradeRiskConfig) (ctx : PreTradeRiskContext) (includeAccount : Bool)
    (hbuild : (buildSnapshot request includeAccount).ok = true)
    (hsnapshot : ctx.authoritativeSnapshot = (buildSnapshot request includeAccount).snapshot)
    (hallow : (evaluate cfg ctx).allow = true) :
    (cfg.flattenOnly = false → 0 < cfg.maxWorstCaseGrossNotional → WithinLimit request cfg ctx) ∧
      (cfg.flattenOnly = true → (ctx.action = "BUY" ∨ ctx.action = "SELL") ∧
        |afterPosition ctx| < |ctx.netPosition| ∧ 0 ≤ afterPosition ctx * ctx.netPosition) := by
  obtain ⟨_, hc⟩ := exists_of_allow hallow
  have hb : Built request ctx.authoritativeSnapshot := by
    rw [hsnapshot]
    exact built_of_ok hbuild
  constructor
  · intro hm hl
    obtain ⟨hi, _, ht, hw⟩ := evaluateChecks_ok hc hm hl
    exact .of_built hb hi ht hw
  · intro hm
    simp only [evaluateChecks, bind_eq_ok] at hc
    obtain ⟨-, -, _, hf, -⟩ := hc
    exact isFlatteningOrder_spec ((checkFlattenOnly_ok hf).1 hm)

/-- A portfolio of one currency pair, with an order on its way. -/
def cashRequest : PortfolioRiskSnapshotBuildRequest :=
  let subject : PreTradeRiskSubject :=
    { portfolioId := "simulator-usd-v1"
      account := "SIM"
      venue := "SIMULATOR"
      baseCurrency := "USD"
      instruments := {"EUR.USD"} }
  let identity : PortfolioRiskSnapshotSetIdentity :=
    { subject, complete := true, connectionEpoch := 1, generation := 4, observedAtMs := 95 }
  let contract : PreTradeRiskInstrumentContract :=
    { specificationId := "simulator-cash-usd-v1"
      specificationVersion := 1
      instrument := "EUR.USD"
      kind := .cashFx
      quantityUnit := .baseCurrencyUnits
      priceUnit := .quoteCurrencyPerUnit
      multiplier := 1
      quoteCurrency := "USD" }
  let mark : PreTradeRiskPriceEvidence :=
    { sourceId := "sim:EUR.USD"
      instrument := "EUR.USD"
      currency := "USD"
      connectionEpoch := 1
      generation := 4
      observedAtMs := 90
      price := 2 }
  let fx : PreTradeRiskFxEvidence :=
    { sourceId := "sim:USD/USD"
      fromCurrency := "USD"
      toCurrency := "USD"
      connectionEpoch := 1
      generation := 4
      observedAtMs := 100
      rate := 1 }
  { subject
    connectionEpoch := 1
    generation := 4
    evaluatedAtMs := 100
    maxEvidenceAgeMs := 60
    positionsIdentity := identity
    pendingOrdersIdentity := identity
    positions := [⟨contract, "sim:EUR.USD", "sim:USD/USD", -10, mark, fx⟩]
    pendingOrders := [⟨"7", contract, "sim:EUR.USD", "sim:USD/USD", "BUY", 5, 3, mark, fx⟩] }

def cashContext : PreTradeRiskContext :=
  let contract := (cashRequest.positions.map fun row => row.contract).headD {}
  let mark := (cashRequest.positions.map fun row => row.mark).headD {}
  let fx := (cashRequest.positions.map fun row => row.fx).headD {}
  { venue := "SIMULATOR"
    account := "SIM"
    symbol := "EUR.USD"
    action := "BUY"
    orderType := "LMT"
    authorizedSubject := cashRequest.subject
    instrumentContract := contract
    authorizedQuoteSourceId := "sim:EUR.USD"
    authorizedFxSourceId := "sim:USD/USD"
    evaluatedAtMs := 100
    totalQuantity := 4
    limitPrice := 5 / 2
    referencePrice := 2
    accountWhitelisted := true
    positionKnown := true
    netPosition := -10
    orderNotionalEvidence :=
      { present := true
        subject := cashRequest.subject
        connectionEpoch := 1
        generation := 4
        contract
        quantity := 4
        baseCurrencyNotional := 10
        quote := mark
        fx }
    authoritativeSnapshot := (buildSnapshot cashRequest false).snapshot }

def cashConfig : PreTradeRiskConfig :=
  { enableOrderSubmission := true
    maxOrderQuantity := 1000
    maxDailyOrders := 10
    maxPriceDeviationBps := 0
    maxWorstCaseGrossNotional := 45
    maxSnapshotAgeMs := 30 }

theorem pre_trade_risk_sound_cash :
    WithinLimit cashRequest cashConfig cashContext ∧ candidateNotional cashContext = 10 ∧
      |afterPosition cashContext| < |cashContext.netPosition| :=
  ⟨(pre_trade_risk_sound cashRequest cashConfig cashContext false (by decide +kernel) rfl
      (by decide +kernel)).1 rfl (by decide +kernel), by decide +kernel,
    ((pre_trade_risk_sound cashRequest { cashConfig with flattenOnly := true } cashContext false
      (by decide +kernel) rfl (by decide +kernel)).2 rfl).2.1⟩

end PortfolioRiskSnapshotBuilder

end Hepta
