import Hepta.Adapter.Api
import Hepta.Adapter.Correlation
import Hepta.Adapter.Lifecycle

/-!
# The state of the gateway adapter

`HeptaIBGatewayAdapter` keeps three views of the broker: the risk snapshot, the active orders and
the terminal orders. Each has a download of its own and can be invalidated; the barrier of the
recovery audit vouches for all three. What only diagnostics read is left out, and so are the
pre-trade checks, which do not look at the views.
-/

namespace Hepta

/-! ### The risk view -/

structure IBAuthoritativeRiskSnapshot where
  connectionEpoch : ℕ := 0
  generation : ℕ := 0
  accountGeneration : ℕ := 0
  positionsGeneration : ℕ := 0
  complete : Bool := false
  coherentRefreshComplete : Bool := false
  accountComplete : Bool := false
  positionsComplete : Bool := false
  fxCashComplete : Bool := false
  fxCashGeneration : ℕ := 0
  riskAbsorbedExposureGeneration : ℕ := 0
  reasonCode : String := ""
  deriving DecidableEq, Repr

structure RiskView where
  riskGeneration : ℕ := 0
  coherentRiskRefreshPending : Bool := false
  coherentRiskRefreshForRecoveryAudit : Bool := false
  coherentRiskRefreshConnectionEpoch : ℕ := 0
  coherentRiskRefreshAccountGeneration : ℕ := 0
  coherentRiskRefreshPositionGeneration : ℕ := 0
  coherentRiskRefreshExposureGeneration : ℕ := 0
  coherentRiskRefreshActiveGeneration : ℕ := 0
  coherentRiskRefreshTerminalGeneration : ℕ := 0
  coherentRiskRefreshMutationGeneration : ℕ := 0
  accountRefreshPending : Bool := false
  positionsRefreshPending : Bool := false
  accountRefreshObserved : Bool := false
  accountReadyObserved : Bool := false
  accountReady : Bool := false
  fxCashRefreshConflict : Bool := false
  fxCashInitialAttestationPending : Bool := false
  positionsRefreshConflict : Bool := false
  snapshot : IBAuthoritativeRiskSnapshot := {}
  pendingPositionQuantities : Dict String Double := ∅
  pendingPositionContracts : Dict String InstrumentRef := ∅
  authoritativePositionQuantities : Dict String Double := ∅
  authoritativePositionContracts : Dict String InstrumentRef := ∅
  pendingFxCashBalances : Dict String Double := ∅
  rejectedFxCashObservationBalances : Dict String Double := ∅
  authoritativeFxCashBalances : Dict String Double := ∅
  /-- `campaignOwnedQuantity` of each instrument. -/
  authoritativeFxCashExposures : Dict String Double := ∅

/-- `InvalidateRiskSnapshot`, apart from the barrier. -/
def RiskView.invalidate (r : RiskView) (cfg : HeptaIBConfig) (connectionEpoch : ℕ)
    (reason : String) : RiskView :=
  { r with
    coherentRiskRefreshPending := false
    coherentRiskRefreshForRecoveryAudit := false
    accountRefreshPending := false
    positionsRefreshPending := false
    accountRefreshObserved := false
    accountReadyObserved := false
    accountReady := false
    fxCashRefreshConflict := false
    positionsRefreshConflict := false
    pendingPositionQuantities := ∅
    pendingPositionContracts := ∅
    authoritativePositionQuantities := ∅
    authoritativePositionContracts := ∅
    pendingFxCashBalances := ∅
    rejectedFxCashObservationBalances := ∅
    authoritativeFxCashBalances := ∅
    authoritativeFxCashExposures := ∅
    snapshot :=
      { r.snapshot with
        connectionEpoch
        generation := r.riskGeneration
        complete := false
        coherentRefreshComplete := false
        accountComplete := false
        positionsComplete := false
        fxCashComplete := cfg.fxEmpty
        fxCashGeneration := 0
        riskAbsorbedExposureGeneration := 0
        reasonCode := reason } }

/-- What a download says about the open orders of the account. -/
structure OrderCensus where
  orderIdsByCorrelation : Dict String Int := ∅
  orderIds : Finset Int := ∅
  clientIdsByOrderId : Dict Int Int := ∅
  orderByPermanentId : Dict Int (Int × Int) := ∅
  unboundManualPermanentIds : Finset Int := ∅
  protectiveCandidatesByPermId : Dict Int IBVisibleProtectiveOrderCandidate := ∅
  protectiveMetadataIncomplete : Bool := false
  missingPermanentId : Bool := false

/-- `m_correlationSnapshot` and its pending download. -/
structure ActiveView where
  correlationGeneration : ℕ := 0
  refreshPending : Bool := false
  refreshConflict : Bool := false
  pending : OrderCensus := {}
  connectionEpoch : ℕ := 0
  generation : ℕ := 0
  complete : Bool := false
  reasonCode : String := ""
  census : OrderCensus := {}

def ActiveView.invalidate (v : ActiveView) (connectionEpoch : ℕ) (reason : String) : ActiveView :=
  { v with
    refreshPending := false
    refreshConflict := false
    pending := {}
    connectionEpoch
    generation := v.correlationGeneration
    complete := false
    reasonCode := reason
    census := {} }

/-! ### The terminal orders -/

/-- An order that was sent in this connection, with what is known of its end. -/
structure LiveTerminalBinding where
  connectionEpoch : ℕ := 0
  correlationId : String := ""
  contract : InstrumentRef := {}
  side : String := ""
  quantity : Double := .zero
  cashQuantity : Double := .zero
  executionQuantity : Double := .zero
  executionAveragePrice : Double := .zero
  publishedExecutionQuantity : Double := .zero
  terminalStatus : String := ""
  terminalFilledQuantity : Double := .zero
  nativeTerminalStatus : Option IBEvent := none
  deriving DecidableEq

structure IBAuthoritativeTerminalCorrelationSnapshot where
  connectionEpoch : ℕ := 0
  generation : ℕ := 0
  complete : Bool := false
  exposureGeneration : ℕ := 0
  reasonCode : String := ""
  terminalOrderIdsByCorrelation : Dict String Int := ∅
  terminalStatusesByCorrelation : Dict String String := ∅
  executionCorrelations : Finset String := ∅
  executionOrderIds : Finset Int := ∅

structure TerminalView where
  generation : ℕ := 0
  requestIssuedForEpoch : Bool := false
  executionRequestId : Int := 0
  completedOrdersRefreshPending : Bool := false
  executionsRefreshPending : Bool := false
  refreshConflict : Bool := false
  snapshot : IBAuthoritativeTerminalCorrelationSnapshot := {}
  pendingOrderIds : Dict String Int := ∅
  pendingStatuses : Dict String String := ∅
  pendingExecutionCorrelations : Finset String := ∅
  pendingExecutionIdsByCorrelation : Dict String Int := ∅
  liveTerminalBindings : Dict Int LiveTerminalBinding := ∅

def TerminalView.invalidate (v : TerminalView) (connectionEpoch : ℕ) (reason : String) :
    TerminalView :=
  { v with
    liveTerminalBindings := ∅
    completedOrdersRefreshPending := false
    executionsRefreshPending := false
    refreshConflict := false
    pendingOrderIds := ∅
    pendingStatuses := ∅
    pendingExecutionCorrelations := ∅
    pendingExecutionIdsByCorrelation := ∅
    snapshot := { connectionEpoch, generation := v.generation, reasonCode := reason } }

/-! ### The adapter -/

structure AuditBarrier where
  minimumConnectionEpoch : ℕ := 0
  complete : Bool := false
  connectionEpoch : ℕ := 0
  attemptedConnectionEpoch : ℕ := 0
  mutationGeneration : ℕ := 0
  reason : String := ""
  deriving DecidableEq

def AuditBarrier.invalidate (b : AuditBarrier) (reason : String) : AuditBarrier :=
  { b with
    complete := false
    connectionEpoch := 0
    mutationGeneration := 0
    reason := if reason = "" then "IB_RECOVERY_AUDIT_BARRIER_NOT_COMPLETE" else reason }

structure HeptaIBGatewayAdapter where
  cfg : HeptaIBConfig
  connected : Bool := false
  apiConnectAttempted : Bool := false
  api : Option Api
  connectionEpoch : ℕ := 0
  terminalTransportHalted : Bool := false
  eventStreamAuthoritative : Bool := true
  lastEventOverflowGeneration : ℕ := 0
  localOrderSeed : Int := 1
  brokerMutationGeneration : ℕ := 0
  exposureGeneration : ℕ := 0
  postFillReconciliationOrderIds : Finset Int := ∅
  postFillExposureGenerationByOrderId : Dict Int ℕ := ∅
  observedEconomicFillQuantityByIdentity : Dict String Double := ∅
  pendingCancelOrderIds : Finset Int := ∅
  orderLifecycle : IbOrderLifecycleTracker := {}
  risk : RiskView := {}
  active : ActiveView := {}
  terminal : TerminalView := {}
  audit : AuditBarrier := {}

namespace HeptaIBGatewayAdapter

variable (a : HeptaIBGatewayAdapter)

def apiConnected : Bool := a.api.any Api.connected

variable (reason : String)

def invalidateCorrelationSnapshot : HeptaIBGatewayAdapter :=
  { a with active := a.active.invalidate a.connectionEpoch reason }

def invalidateTerminalCorrelationSnapshot : HeptaIBGatewayAdapter :=
  { a with terminal := a.terminal.invalidate a.connectionEpoch reason }

def invalidateRecoveryAuditBarrier : HeptaIBGatewayAdapter :=
  { a with audit := a.audit.invalidate reason }

def invalidateRiskSnapshot : HeptaIBGatewayAdapter :=
  { a with
    risk := a.risk.invalidate a.cfg a.connectionEpoch reason
    audit := a.audit.invalidate reason }

/-- `BeginBrokerMutation`: a place or a cancel that is about to be passed to the broker. -/
def beginBrokerMutation : Bool × HeptaIBGatewayAdapter :=
  if a.terminalTransportHalted then (false, a)
  else if a.brokerMutationGeneration = uint64Max then
    (false, a.invalidateRecoveryAuditBarrier "IB_BROKER_MUTATION_GENERATION_EXHAUSTED")
  else
    (true, { a with brokerMutationGeneration := a.brokerMutationGeneration + 1 }
      |>.invalidateRecoveryAuditBarrier reason)

def passToBroker (call : ApiCall) : HeptaIBGatewayAdapter :=
  { a with api := a.api.map fun api => { api with calls := api.calls ++ [call] } }

end HeptaIBGatewayAdapter

end Hepta
