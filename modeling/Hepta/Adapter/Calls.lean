import Hepta.Adapter.Gateway

/-!
# The calls of the gateway adapter

Sending and cancelling orders, connecting and the recovery audit. The adapter is used by these calls,
by its requests and by the callbacks of the wrapper in any order; a run is a list of them.
-/

namespace Hepta

open IbVenueCorrelationCodec

namespace HeptaIBGatewayAdapter

/-! ### Positions -/

/-- A position is held in a contract, as far as the contract is known. -/
def matchesContract (expected observed : InstrumentRef) : Bool :=
  let agrees (wanted seen : String) := wanted = "" || seen = wanted
  expected.symbol ≠ "" && expected.secType ≠ "" && expected.currency ≠ "" &&
    observed.symbol = expected.symbol && observed.secType = expected.secType &&
    observed.currency = expected.currency &&
    (expected.exchange = "" || observed.exchange = "" || observed.exchange = expected.exchange) &&
    agrees expected.primaryExchange observed.primaryExchange &&
    agrees expected.lastTradeDateOrContractMonth observed.lastTradeDateOrContractMonth &&
    agrees expected.right observed.right &&
    (expected.strike.eq .zero || observed.strike.eq expected.strike) &&
    agrees expected.multiplier observed.multiplier &&
    agrees expected.tradingClass observed.tradingClass &&
    agrees expected.localSymbol observed.localSymbol

variable (a : HeptaIBGatewayAdapter)

/-- The quantity of a cash instrument is what the account has above the baseline. -/
def resolveCashQuantity (instrument : String) (contract : InstrumentRef) : Option Double :=
  match a.cfg.authoritativeCashFxContracts.lookup instrument,
    a.risk.authoritativeFxCashExposures.lookup instrument with
  | some configured, some owned =>
    if configured.symbol ≠ contract.symbol ∨ configured.currency ≠ contract.currency ∨
        !a.risk.snapshot.accountComplete ∨ !a.risk.snapshot.fxCashComplete ∨ !owned.isFinite then
      none
    else some (if owned.abs.le .micro then .zero else owned)
  | _, _ => none

def contractQuantities (contract : InstrumentRef) : List (Option Double) :=
  (a.risk.authoritativePositionContracts.entries.filter fun entry =>
    matchesContract contract entry.2).map fun entry =>
      (a.risk.authoritativePositionQuantities.lookup entry.1).filter Double.isFinite

def resolveAuthoritativePositionQuantity (instrument : String) (contract : InstrumentRef) :
    Option Double :=
  if contract.secType = "CASH" ∧ !a.cfg.authoritativeCashFxContracts.entries.isEmpty then
    a.resolveCashQuantity instrument contract
  else match a.risk.authoritativePositionQuantities.lookup instrument with
    | some quantity => if quantity.isFinite then some quantity else none
    | none =>
      match a.contractQuantities contract with
      | [] => some .zero
      | [quantity] => quantity
      | _ => none

/-! ### Sending an order -/

/-- What the checks and the broker decide about an order. -/
structure PlaceEnv where
  /-- The checks before an id is taken pass. -/
  admitted : Bool := true
  /-- The baseline is known and the final check passes. -/
  released : Bool := true
  lastValidOrderId : Int := 0
  /-- `PlaceOrderWithTimeInForce` returns true. -/
  accepted : Bool := true

def nextOrderId (lastValidOrderId : Int) : Int × HeptaIBGatewayAdapter :=
  let orderId := if 0 < lastValidOrderId then max a.localOrderSeed lastValidOrderId
    else a.localOrderSeed
  (orderId, { a with localOrderSeed := orderId + 1 })

/-- The adapter after the broker has accepted an order. -/
def recordSubmitted (orderId : Int) (contract : InstrumentRef) (order : OrderIntent) :
    HeptaIBGatewayAdapter :=
  let a := { a with
    orderLifecycle := a.orderLifecycle.beginLocalOrderGeneration orderId
    terminal := { a.terminal with
      liveTerminalBindings := a.terminal.liveTerminalBindings.erase orderId } }
  match decodeOrderRef order.orderRef with
  | .ok correlationId =>
    if 0 < orderId ∧ a.connectionEpoch ≠ 0 then a.bindOrder orderId correlationId contract order
    else a
  | .error _ => a

variable (env : PlaceEnv)

def submitValidatedOrder (orderId : Int) (contract : InstrumentRef) (order : OrderIntent) :
    Option Int × HeptaIBGatewayAdapter :=
  match a.beginBrokerMutation "IB_RECOVERY_AUDIT_PLACE_MUTATION" with
  | (false, a) => (none, a)
  | (true, a) =>
    let a := a.passToBroker (.place orderId contract order)
    if env.accepted then (some orderId, a.recordSubmitted orderId contract order)
    else (none, { a with orderLifecycle := a.orderLifecycle.forget orderId })

variable (contract : InstrumentRef) (order : OrderIntent)

/-- `PlaceOrderInternal`, with the id of the order if the broker has accepted it. -/
def placeOrderInternal : Option Int × HeptaIBGatewayAdapter :=
  if a.api.isNone ∨ !a.connected then (none, a)
  else if !a.eventStreamAuthoritative ∨ !env.admitted then (none, a)
  else
    let (orderId, a) := a.nextOrderId env.lastValidOrderId
    if env.released then a.submitValidatedOrder env orderId contract order else (none, a)

/-- `PlaceOrder`: an order without a correlation. -/
def placeOrder : Option Int × HeptaIBGatewayAdapter :=
  if order.orderRef ≠ "" then (none, a) else a.placeOrderInternal env contract order

/-- Send an order with its correlation and count it as active. -/
def placeCorrelated (venueCorrelationId : String) : Option Int × HeptaIBGatewayAdapter :=
  if order.orderRef ≠ "" then (none, a)
  else match encodeOrderRef venueCorrelationId with
    | .error _ => (none, a)
    | .ok orderRef =>
      match a.placeOrderInternal env contract { order with orderRef } with
      | (none, a) => (none, a)
      | (some orderId, a) =>
        (some orderId,
          (a.mergeIncrementalActiveOrder orderId venueCorrelationId a.cfg.clientId 0).2)

def placeOrderCorrelated (venueCorrelationId : String) : Option Int × HeptaIBGatewayAdapter :=
  a.placeCorrelated env contract order venueCorrelationId

/-! ### Orders that only reduce -/

/-- What a reduce-only order is checked against. -/
structure ReduceOnlyRequest where
  contract : InstrumentRef
  order : OrderIntent
  instrument : String
  expectedPositionQuantity : Double
  expectedConnectionEpoch : ℕ
  expectedPositionGeneration : ℕ
  venueCorrelationId : String

def matchesFlattenSnapshot (r : ReduceOnlyRequest) (position : Double) : Bool :=
  let s := a.risk.snapshot
  s.accountComplete && s.positionsComplete && s.fxCashComplete && a.eventStreamAuthoritative &&
    r.expectedConnectionEpoch ≠ 0 && r.expectedPositionGeneration ≠ 0 &&
    s.connectionEpoch = r.expectedConnectionEpoch &&
    s.positionsGeneration = r.expectedPositionGeneration && position.isFinite &&
    r.expectedPositionQuantity.isFinite

/-- The order is on the other side of the position and not larger. -/
def reducesPosition (position : Double) : Bool :=
  let quantity := order.totalQuantity
  ((Double.zero.lt position && order.action = "SELL") ||
      (position.lt .zero && order.action = "BUY")) &&
    order.cashQuantity.eq .zero && quantity.isFinite && Double.zero.lt quantity &&
    quantity.le position.abs && (order.orderType ≠ "LMT" || quantity.eq position.abs)

/-- The checks of `PlaceReduceOnlyOrderCorrelated` before the order is sent. -/
def reduceOnlyAllowed (r : ReduceOnlyRequest) : Bool :=
  (a.resolveAuthoritativePositionQuantity r.instrument r.contract).any fun position =>
    a.matchesFlattenSnapshot r position && position.eq r.expectedPositionQuantity &&
      a.active.complete && a.active.connectionEpoch = r.expectedConnectionEpoch &&
      a.active.census.orderIds = ∅ && reducesPosition r.order position

def placeReduceOnlyOrderCorrelated (r : ReduceOnlyRequest) : Option Int × HeptaIBGatewayAdapter :=
  if a.reduceOnlyAllowed r then a.placeCorrelated env r.contract r.order r.venueCorrelationId
  else (none, a)

/-- A cancel of an order that the broker has not acknowledged waits for the acknowledgement. -/
def cancelOrder (orderId : Int) : HeptaIBGatewayAdapter :=
  if a.api.isNone ∨ !a.connected then a
  else match a.orderLifecycle.canCancel orderId with
    | .error suppress =>
      if suppress = "NO_BROKER_ACK" then
        { a with pendingCancelOrderIds := insert orderId a.pendingCancelOrderIds }
      else a
    | .ok _ =>
      match a.beginBrokerMutation "IB_RECOVERY_AUDIT_CANCEL_MUTATION" with
      | (false, a) => a
      | (true, a) => a.passToBroker (.cancel orderId)

/-! ### The connection -/

/-- The adapter after its construction and `Init`. -/
def init (cfg : HeptaIBConfig) (api : Option ℕ) : HeptaIBGatewayAdapter :=
  { cfg
    api := api.map Api.rebuilt
    orderLifecycle := ({} : IbOrderLifecycleTracker).activateConnectionEpoch 0
    risk :=
      { fxCashInitialAttestationPending := !cfg.fxEmpty
        snapshot := { fxCashComplete := cfg.fxEmpty } } }

/-- The connection cannot be used. -/
def dropConnection : HeptaIBGatewayAdapter :=
  { a with
    connected := false
    pendingCancelOrderIds := ∅
    orderLifecycle := a.orderLifecycle.invalidateConnectionEpoch }

/-- A connection attempt begins an epoch and forgets what was known of the one before. -/
def beginConnectionEpoch : HeptaIBGatewayAdapter :=
  { a with
    connectionEpoch := a.connectionEpoch + 1
    pendingCancelOrderIds := ∅
    exposureGeneration := 0
    observedEconomicFillQuantityByIdentity := ∅
    postFillExposureGenerationByOrderId := ∅
    postFillReconciliationOrderIds := ∅
    risk := { a.risk with
      coherentRiskRefreshPending := false
      coherentRiskRefreshForRecoveryAudit := false }
    audit := { a.audit with
      complete := false
      connectionEpoch := 0
      attemptedConnectionEpoch := 0
      mutationGeneration := 0
      reason := "IB_RECOVERY_AUDIT_BARRIER_NOT_COMPLETE" }
    orderLifecycle := a.orderLifecycle.activateConnectionEpoch (a.connectionEpoch + 1)
    terminal := { a.terminal with requestIssuedForEpoch := false, executionRequestId := 0 } }
    |>.invalidateViews "IB_CORRELATION_CONNECTION_CHANGED"
      "IB_TERMINAL_CORRELATION_CONNECTION_CHANGED" "IB_RISK_CONNECTION_CHANGED"

/-- The wrapper is connected with the parameters of the adapter. -/
def connectApi (api : Api) (accepted : Bool) : HeptaIBGatewayAdapter :=
  let a := { a with
    connected := accepted
    api := some { api with
      account := a.cfg.account
      connectionEpoch := a.connectionEpoch
      connected := accepted } }
  if accepted then a else a.dropConnection

/-- `Connect`. The wrapper is used for one connection: later ones need a rebuilt one, given by the
size of its queue. -/
def connect (rebuilt : Option ℕ) (accepted : Bool) : HeptaIBGatewayAdapter :=
  if a.terminalTransportHalted then { a with connected := false, pendingCancelOrderIds := ∅ }
  else if a.connectionEpoch = uint64Max then
    a.dropConnection.invalidateViews "IB_CORRELATION_CONNECTION_EPOCH_EXHAUSTED"
      "IB_TERMINAL_CORRELATION_CONNECTION_EPOCH_EXHAUSTED" "IB_RISK_CONNECTION_EPOCH_EXHAUSTED"
  else
    let a := a.beginConnectionEpoch
    let api := if a.apiConnectAttempted then rebuilt.map Api.rebuilt else a.api
    let a := { a with apiConnectAttempted := true, api }
    match api with
    | none =>
      a.dropConnection.invalidateViews "IB_CORRELATION_API_UNAVAILABLE"
        "IB_TERMINAL_CORRELATION_API_UNAVAILABLE" "IB_RISK_API_UNAVAILABLE"
    | some api => a.connectApi api accepted

def disconnect : HeptaIBGatewayAdapter :=
  { a.dropConnection with
    api := a.api.map Api.disconnect
    postFillReconciliationOrderIds := ∅
    postFillExposureGenerationByOrderId := ∅ }
    |>.invalidateViews "IB_CORRELATION_DISCONNECTED" "IB_TERMINAL_CORRELATION_DISCONNECTED"
      "IB_RISK_DISCONNECTED"
    |>.invalidateRecoveryAuditBarrier "IB_RECOVERY_AUDIT_DISCONNECTED"

/-- `HaltTransportForTerminalAuditLocked`: the linked wrapper has no witness that its queue is all
there is, so the halt is never verified. -/
def haltTransportForTerminalAudit : HeptaIBGatewayAdapter :=
  if a.terminalTransportHalted ∨ !a.apiConnected then { a with pendingCancelOrderIds := ∅ }
  else
    { a with
      terminalTransportHalted := true
      connected := false
      pendingCancelOrderIds := ∅
      api := a.api.map Api.disconnect }

def markAuthoritativeResyncComplete (overflowGeneration : ℕ) : HeptaIBGatewayAdapter :=
  if a.eventStreamAuthoritative ∨ overflowGeneration = 0 ∨
      overflowGeneration ≠ a.lastEventOverflowGeneration then a
  else { a with eventStreamAuthoritative := true }

def cashAttestationComplete (cfg : HeptaIBConfig) (observedBalances : Dict String Double) : Bool :=
  let contracts := cfg.authoritativeCashFxContracts
  observedBalances.entries.length = contracts.entries.length &&
    cfg.authoritativeCashFxBaselines.entries.length = contracts.entries.length &&
    contracts.keys.all fun instrument =>
      (observedBalances.lookup instrument).any Double.isFinite &&
        (cfg.authoritativeCashFxBaselines.lookup instrument).any Double.isFinite

def prepareReconnectCashAttestation (observedBalances : Dict String Double) :
    HeptaIBGatewayAdapter :=
  if cashAttestationComplete a.cfg observedBalances then
    { a with
      cfg := { a.cfg with authoritativeCashFxStartupObservedBalances := observedBalances }
      risk := { a.risk with
        fxCashInitialAttestationPending := !observedBalances.entries.isEmpty } }
  else a

/-! ### The recovery audit -/

structure IBAuthoritativeRecoveryAuditSnapshot where
  transportConnected : Bool
  eventStreamAuthoritative : Bool
  active : ActiveView
  terminal : IBAuthoritativeTerminalCorrelationSnapshot
  risk : IBAuthoritativeRiskSnapshot
  positionQuantities : Dict String Double
  postFillRiskReconciliationPending : Bool
  exposureGeneration : ℕ
  terminalExposureGeneration : ℕ
  riskAbsorbedExposureGeneration : ℕ
  barrierComplete : Bool
  newConnectionEpochRequired : Bool := false
  reasonCode : String

/-- The positions together with the cash instruments that are not flat. -/
def positionsWithCash : Dict String Double :=
  a.risk.authoritativeFxCashExposures.entries.foldl (fun positions exposure =>
    if Double.micro.lt exposure.2.abs then positions.insert exposure.1 exposure.2 else positions)
    a.risk.authoritativePositionQuantities

def postFillRiskReconciliationPending : Bool :=
  a.postFillReconciliationOrderIds ≠ ∅ || !a.risk.snapshot.coherentRefreshComplete ||
    a.risk.snapshot.riskAbsorbedExposureGeneration ≠ a.exposureGeneration

def barrierCurrent : Bool :=
  a.audit.complete && a.audit.connectionEpoch = a.connectionEpoch &&
    a.audit.mutationGeneration = a.brokerMutationGeneration &&
    (a.audit.minimumConnectionEpoch = 0 ||
      decide (a.audit.minimumConnectionEpoch ≤ a.connectionEpoch))

def buildRecoveryAuditSnapshot : IBAuthoritativeRecoveryAuditSnapshot where
  transportConnected := a.connected && a.apiConnected
  eventStreamAuthoritative := a.eventStreamAuthoritative
  active := a.active
  terminal := a.terminal.snapshot
  risk := a.risk.snapshot
  positionQuantities := a.positionsWithCash
  postFillRiskReconciliationPending := a.postFillRiskReconciliationPending
  exposureGeneration := a.exposureGeneration
  terminalExposureGeneration := a.terminal.snapshot.exposureGeneration
  riskAbsorbedExposureGeneration := a.risk.snapshot.riskAbsorbedExposureGeneration
  barrierComplete := a.barrierCurrent
  reasonCode :=
    if a.barrierCurrent then ""
    else if a.audit.reason = "" then "IB_RECOVERY_AUDIT_BARRIER_NOT_COMPLETE"
    else a.audit.reason

/-- No order is active and no fill waits to be reconciled. -/
def auditPrecondition : Bool :=
  a.connectionEpoch ≠ 0 && a.active.complete && a.active.generation ≠ 0 &&
    a.active.connectionEpoch = a.connectionEpoch && a.active.census.orderIds = ∅ &&
    a.postFillReconciliationOrderIds = ∅

/-- The audit asks for a connection after this one. -/
def demandNewEpoch : HeptaIBGatewayAdapter :=
  { a with audit := { a.audit with minimumConnectionEpoch := a.connectionEpoch + 1 } }

def newEpochRequired (s : IBAuthoritativeRecoveryAuditSnapshot) :
    IBAuthoritativeRecoveryAuditSnapshot :=
  { s with
    barrierComplete := false
    newConnectionEpochRequired := true
    reasonCode := "IB_RECOVERY_AUDIT_NEW_CONNECTION_EPOCH_REQUIRED" }

def beginRecoveryAuditBarrier : IBAuthoritativeRecoveryAuditSnapshot × HeptaIBGatewayAdapter :=
  let s := a.buildRecoveryAuditSnapshot
  if a.audit.minimumConnectionEpoch = 0 then
    if !a.auditPrecondition then
      ({ s with
        barrierComplete := false, reasonCode := "IB_RECOVERY_AUDIT_PRECONDITIONS_NOT_FLAT" }, a)
    else if a.connectionEpoch = uint64Max then
      ({ s with
        barrierComplete := false, reasonCode := "IB_RECOVERY_AUDIT_CONNECTION_EPOCH_EXHAUSTED" }, a)
    else (newEpochRequired s, a.demandNewEpoch)
  else if a.connectionEpoch < a.audit.minimumConnectionEpoch then (newEpochRequired s, a)
  else if s.barrierComplete then (s, a)
  else if a.audit.attemptedConnectionEpoch = a.connectionEpoch ∧ a.auditPrecondition ∧
      a.connectionEpoch ≠ uint64Max then (newEpochRequired s, a.demandNewEpoch)
  else (s, a)

/-! ### Runs -/

/-- A call of the adapter or a callback of its wrapper. -/
inductive Action where
  | callback (c : Api.Callback)
  | dequeueTurn
  | reqAccountSummary
  | reqPositions
  | reqRiskRefresh
  | reqRecoveryAuditRiskRefresh
  | beginOpenOrderRefresh
  | reqTerminalCorrelations
  | acknowledgePostFillRiskReconciled (orderId : Int)
  | placeOrder (env : PlaceEnv) (contract : InstrumentRef) (order : OrderIntent)
  | placeOrderCorrelated (env : PlaceEnv) (contract : InstrumentRef) (order : OrderIntent)
      (venueCorrelationId : String)
  | placeReduceOnlyOrderCorrelated (env : PlaceEnv) (r : ReduceOnlyRequest)
  | cancelOrder (orderId : Int)
  | connect (rebuilt : Option ℕ) (accepted : Bool)
  | disconnect
  | haltTransportForTerminalAudit
  | markAuthoritativeResyncComplete (overflowGeneration : ℕ)
  | prepareReconnectCashAttestation (observedBalances : Dict String Double)
  | beginRecoveryAuditBarrier

def step : Action → HeptaIBGatewayAdapter
  | .callback c => { a with api := a.api.map fun api => api.callback c }
  | .dequeueTurn => a.dequeueTurn.2
  | .reqAccountSummary => (a.reqAccountSummary false).2
  | .reqPositions => (a.reqPositions false).2
  | .reqRiskRefresh => a.reqRiskRefresh.2
  | .reqRecoveryAuditRiskRefresh => a.reqRecoveryAuditRiskRefresh.2
  | .beginOpenOrderRefresh => a.beginOpenOrderRefresh.2
  | .reqTerminalCorrelations => a.reqTerminalCorrelations.2
  | .acknowledgePostFillRiskReconciled orderId => (a.acknowledgePostFillRiskReconciled orderId).2
  | .placeOrder env contract order => (a.placeOrder env contract order).2
  | .placeOrderCorrelated env contract order venueCorrelationId =>
    (a.placeOrderCorrelated env contract order venueCorrelationId).2
  | .placeReduceOnlyOrderCorrelated env r => (a.placeReduceOnlyOrderCorrelated env r).2
  | .cancelOrder orderId => a.cancelOrder orderId
  | .connect rebuilt accepted => a.connect rebuilt accepted
  | .disconnect => a.disconnect
  | .haltTransportForTerminalAudit => a.haltTransportForTerminalAudit
  | .markAuthoritativeResyncComplete overflowGeneration =>
    a.markAuthoritativeResyncComplete overflowGeneration
  | .prepareReconnectCashAttestation observedBalances =>
    a.prepareReconnectCashAttestation observedBalances
  | .beginRecoveryAuditBarrier => a.beginRecoveryAuditBarrier.2

def run (actions : List Action) : HeptaIBGatewayAdapter :=
  actions.foldl step a

end HeptaIBGatewayAdapter

end Hepta
