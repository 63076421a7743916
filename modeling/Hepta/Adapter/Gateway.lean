import Hepta.Adapter.Risk
import Hepta.Adapter.Active

/-!
# The gateway adapter

How `HeptaIBGatewayAdapter` takes an event from the queue: what it refuses, and the projections that
an accepted event goes through.
-/

namespace Hepta

open IbVenueCorrelationCodec

namespace HeptaIBGatewayAdapter

/-! ### Economic fills -/

def corrIdentity (e : IBEvent) (correlationId : String) : String :=
  "corr|" ++ toString e.brokerClientId ++ "|" ++ e.account ++ "|" ++ correlationId

/-- A status of an order without a binding. -/
def legacyIdentity (e : IBEvent) : Option String :=
  if e.connectionEpoch = 0 ∨ e.brokerClientId < 0 then none
  else some ("legacy-status|" ++ toString e.connectionEpoch ++ "|" ++ toString e.brokerClientId ++
    "|" ++ toString e.id)

/-- What an execution is remembered by, or why the risk snapshot cannot be kept. -/
def executionIdentity (e : IBEvent) : Except (String × String) String :=
  match decodeOrderRef e.order.orderRef with
  | .ok correlationId => .ok (corrIdentity e correlationId)
  | .error _ =>
    if claimsHepta e.order.orderRef then
      .error ("IB_RECOVERY_AUDIT_EXECUTION_CORRELATION_INVALID",
        "IB_RISK_EXECUTION_CORRELATION_INVALID")
    else if e.brokerClientId < 0 ∨ e.key = "" then
      .error ("IB_RECOVERY_AUDIT_EXECUTION_IDENTITY_INCOMPLETE",
        "IB_RISK_EXECUTION_IDENTITY_INCOMPLETE")
    else
      .ok ("external-exec|" ++ toString e.brokerClientId ++ "|" ++ e.key ++ "|" ++
        e.order.orderRef)

variable (a : HeptaIBGatewayAdapter) (e : IBEvent)

def statusIdentity : Option String :=
  match a.binding e.id with
  | some b =>
    if a.isConsistentBoundOrderStatus e ∧ b.correlationId ≠ "" then
      some (corrIdentity e b.correlationId)
    else legacyIdentity e
  | none => legacyIdentity e

/-- The answer to a query is no new fill of a live order. -/
def historicalFill : Bool :=
  (e.type = .executionDetails && decide (0 ≤ e.requestId)) ||
    isHistoricalSyntheticExecutionStatus e

/-- A fill that was not observed before. -/
def recordFill (identity : String) : HeptaIBGatewayAdapter :=
  let exposureGeneration := a.exposureGeneration + 1
  { a with
    exposureGeneration
    observedEconomicFillQuantityByIdentity :=
      a.observedEconomicFillQuantityByIdentity.insert identity e.number2
    postFillReconciliationOrderIds :=
      if historicalFill e then a.postFillReconciliationOrderIds
      else insert e.id a.postFillReconciliationOrderIds
    postFillExposureGenerationByOrderId :=
      if historicalFill e then a.postFillExposureGenerationByOrderId
      else a.postFillExposureGenerationByOrderId.insert e.id exposureGeneration }
    |>.invalidateRecoveryAuditBarrier
      (if historicalFill e then "IB_RECOVERY_AUDIT_HISTORICAL_FILL_OBSERVED"
        else "IB_RECOVERY_AUDIT_LIVE_FILL_OBSERVED")

def fillObserved (identity : String) : Bool :=
  (a.observedEconomicFillQuantityByIdentity.lookup identity).any fun prior => e.number2.le prior

def invalidateViews (active terminal risk : String) : HeptaIBGatewayAdapter :=
  ((a.invalidateCorrelationSnapshot active).invalidateTerminalCorrelationSnapshot terminal)
    |>.invalidateRiskSnapshot risk

def observeFill (identity : String) : HeptaIBGatewayAdapter :=
  if a.fillObserved e identity then a
  else if a.exposureGeneration = uint64Max then
    { a with eventStreamAuthoritative := false }.invalidateViews
      "IB_EXPOSURE_GENERATION_EXHAUSTED" "IB_EXPOSURE_GENERATION_EXHAUSTED"
      "IB_EXPOSURE_GENERATION_EXHAUSTED"
  else a.recordFill e identity

/-- The event is a fill, as far as its economics go. -/
def isFill : Bool :=
  (e.type = .orderStatus ||
    (e.type = .executionDetails && (a.cfg.account = "" || e.account = a.cfg.account))) &&
    decide (0 ≤ e.id) && hasEconomicFillEvidence e

def observeEconomicFill : HeptaIBGatewayAdapter :=
  if !a.isFill e then a
  else if e.type = .executionDetails then
    match executionIdentity e with
    | .ok identity => a.observeFill e identity
    | .error (audit, risk) =>
      (a.invalidateRecoveryAuditBarrier audit).invalidateRiskSnapshot risk
  else match a.statusIdentity e with
    | some identity => a.observeFill e identity
    | none => a

/-! ### The state of the connection -/

def applyEventQueueOverflow : HeptaIBGatewayAdapter :=
  { a with
    eventStreamAuthoritative := false
    lastEventOverflowGeneration := max a.lastEventOverflowGeneration e.overflowGeneration }
    |>.invalidateViews "IB_CORRELATION_EVENT_STREAM_OVERFLOW"
      "IB_TERMINAL_CORRELATION_EVENT_STREAM_OVERFLOW" "IB_RISK_EVENT_STREAM_OVERFLOW"

def applyConnectionClosed : HeptaIBGatewayAdapter :=
  { a with
    connected := false
    pendingCancelOrderIds := ∅
    orderLifecycle := a.orderLifecycle.invalidateConnectionEpoch }
    |>.invalidateViews "IB_CORRELATION_CONNECTION_CLOSED"
      "IB_TERMINAL_CORRELATION_CONNECTION_CLOSED" "IB_RISK_CONNECTION_CLOSED"

/-- An error about market data that was asked for in this connection. -/
def localMarketDataError : Bool :=
  isIbCorroboratedCashMarketDataRequestError e && e.connectionEpoch = a.connectionEpoch &&
    e.brokerClientId = a.cfg.clientId

/-- An event about orders that may not come after the barrier of the recovery audit. -/
def lateBrokerEvent : Bool :=
  !a.isExactDuplicateNativeTerminalStatus e &&
    (e.type = .openOrder || e.type = .orderStatus || e.type = .executionDetails ||
      e.type = .completedOrder ||
      (e.type = .error && decide (0 ≤ e.id) && !a.localMarketDataError e))

def contradictsBinding : Bool :=
  e.type = .orderStatus && (a.binding e.id).isSome && !a.isConsistentBoundOrderStatus e

/-- The part of the transition that the type of the event chooses. -/
def applyTypedTransition : HeptaIBGatewayAdapter :=
  match e.type with
  | .connected => { a with connected := true }
  | .connectionClosed => a.applyConnectionClosed
  | .nextValidId => { a with connected := true }
  | .orderStatus => a.applyOrderStatusTransition e
  | .error => a.applyBrokerErrorTransition e
  | .eventQueueOverflow => a.applyEventQueueOverflow e
  | _ => a

/-- The barrier of the recovery audit does not survive a late event. -/
def noteLateEvent : HeptaIBGatewayAdapter :=
  if a.audit.complete && a.lateBrokerEvent e then
    a.invalidateRecoveryAuditBarrier "IB_RECOVERY_AUDIT_LATE_BROKER_EVENT"
  else a

def applyEventStateTransition : HeptaIBGatewayAdapter :=
  if a.contradictsBinding e then a
  else ((a.noteLateEvent e).observeEconomicFill e).applyTypedTransition e

/-! ### Taking an event from the queue -/

def isActiveStatus (status : String) : Bool :=
  status = "Submitted" || status = "PreSubmitted" || status = "PendingSubmit" ||
    status = "ApiPending" || status = "PendingCancel"

def identityChecked : Bool :=
  e.type = .orderStatus && a.active.complete && e.connectionEpoch = a.connectionEpoch &&
    decide (0 ≤ e.id) && decide (0 ≤ e.brokerClientId) && e.value ≠ "execDetails" &&
    (e.account = "" || e.account = a.cfg.account)

def statusWithoutPermanentId : HeptaIBGatewayAdapter :=
  if isActiveStatus e.key ∧ e.brokerClientId = 0 ∧ e.id = 0 then
    a.invalidateCorrelationSnapshot "IB_UNBOUND_MANUAL_STATUS_PERMID_UNKNOWN"
  else if e.key = "PendingCancel" ∧
      (a.active.census.protectiveCandidatesByPermId.values.any fun candidate =>
        candidate.brokerClientId = e.brokerClientId && candidate.orderId = e.id) then
    a.invalidateCorrelationSnapshot "IB_PROTECTIVE_PENDING_CANCEL_PERMID_UNKNOWN"
  else a

/-- The permanent id belongs to another order, or the order has another permanent id. -/
def contradictoryIdentity : Bool :=
  let c := a.active.census
  c.permanentIdTaken e.id e.brokerClientId e.brokerPermId ||
    (e.id ≠ 0 && c.clientIdsByOrderId.lookup e.id = some e.brokerClientId &&
      c.orderByPermanentId.entries.any fun owner =>
        owner.2 = (e.brokerClientId, e.id) && owner.1 ≠ e.brokerPermId)

/-- A contradictory status leaves no view that it could be about. -/
def rejectIdentity : HeptaIBGatewayAdapter :=
  let a := (a.invalidateCorrelationSnapshot "IB_ORDER_STATUS_PERMID_IDENTITY_CONFLICT")
    |>.invalidateRecoveryAuditBarrier "IB_RECOVERY_AUDIT_ORDER_STATUS_PERMID_IDENTITY_CONFLICT"
  if hasEconomicFillEvidence e then
    a.invalidateRiskSnapshot "IB_RISK_ORDER_STATUS_PERMID_IDENTITY_CONFLICT"
  else a

def statusWithPermanentId : HeptaIBGatewayAdapter :=
  if isActiveStatus e.key ∧ (a.active.census.orderByPermanentId.lookup e.brokerPermId).isNone then
    a.invalidateCorrelationSnapshot "IB_ORDER_STATUS_UNSEEN_ACTIVE_PERMID_REQUIRES_REFRESH"
  else if e.key = "PendingCancel" ∧
      (a.active.census.protectiveCandidatesByPermId.lookup e.brokerPermId).isSome then
    a.invalidateCorrelationSnapshot "IB_PROTECTIVE_PENDING_CANCEL_REQUIRES_GLOBAL_REFRESH"
  else a

/-- Whether a status is dropped for its identity, and what it does to the view of active orders. -/
def quarantineContradictoryOrderStatusIdentity : Bool × HeptaIBGatewayAdapter :=
  if !a.identityChecked e then (false, a)
  else if e.brokerPermId ≤ 0 then (false, a.statusWithoutPermanentId e)
  else if a.contradictoryIdentity e then (true, a.rejectIdentity e)
  else (false, a.statusWithPermanentId e)

/-- A live callback about a bound order that does not agree with its binding. -/
def untrustedBoundEvent : Bool :=
  (e.type = .orderStatus || e.type = .executionDetails) && (a.binding e.id).isSome &&
    !((e.type = .executionDetails || isHistoricalSyntheticExecutionStatus e) &&
      decide (0 ≤ e.requestId)) &&
    !(if e.type = .orderStatus then a.isConsistentBoundOrderStatus e
      else a.isConsistentBoundLiveExecution e)

def rejectBoundEvent : HeptaIBGatewayAdapter :=
  let a := a.invalidateRecoveryAuditBarrier "IB_RECOVERY_AUDIT_UNTRUSTED_BOUND_ORDER_EVENT"
  if (e.account = "" ∨ e.account = a.cfg.account) ∧ hasEconomicFillEvidence e then
    a.invalidateRiskSnapshot "IB_RISK_UNTRUSTED_BOUND_ORDER_EVENT"
  else a

def projectEvent : HeptaIBGatewayAdapter :=
  let (acceptedBrokerOpenOrder, a) := a.correlateOpenOrderEvent e
  a.applyEventStateTransition e
    |>.applyRiskSnapshotEvent e
    |>.applyActiveCorrelationEvent e acceptedBrokerOpenOrder
    |>.applyTerminalCorrelationEvent e
    |>.publishPositionEvent e

/-- A status of a bound order is completed with what its binding knows. -/
def completedStatus : Option IBEvent :=
  if !a.isConsistentBoundOrderStatus e then some e
  else match a.binding e.id with
    | none => some e
    | some b =>
      match encodeOrderRef b.correlationId with
      | .error _ => none
      | .ok orderRef =>
        some { e with order := { e.order with orderRef }, account := a.cfg.account }

def acceptEvent : HeptaIBGatewayAdapter :=
  match a.completedStatus e with
  | none => a.invalidateRiskSnapshot "IB_LIVE_STATUS_BINDING_INVALID"
  | some e => a.projectEvent e

/-- One turn of the loop of `TryDequeueEvent`, with whether the loop ends. -/
def takeEvent : Bool × HeptaIBGatewayAdapter :=
  if e.connectionEpoch ≠ 0 ∧ e.connectionEpoch ≠ a.connectionEpoch then (false, a)
  else match a.quarantineContradictoryOrderStatusIdentity e with
    | (true, a) => (false, a)
    | (false, a) =>
      if a.untrustedBoundEvent e then (false, a.rejectBoundEvent e) else (true, a.acceptEvent e)

/-- The next event of the queue, with the adapter after it was taken out. -/
def popEvent : Option (IBEvent × HeptaIBGatewayAdapter) :=
  match a.api with
  | none => none
  | some api => api.queue.tryDequeueEvent.map fun (e, queue) =>
    (e, { a with api := some { api with queue } })

def dequeueTurn : Bool × HeptaIBGatewayAdapter :=
  match a.popEvent with
  | none => (true, a)
  | some (e, a) => a.takeEvent e

/-- The loop takes events until one is passed on or the queue is empty. -/
def tryDequeueLoop : ℕ → HeptaIBGatewayAdapter → HeptaIBGatewayAdapter
  | 0, a => a
  | turns + 1, a =>
    match a.dequeueTurn with
    | (true, a) => a
    | (false, a) => tryDequeueLoop turns a

/-- `TryDequeueEvent`: besides the events of the queue there may be one that reports a loss. -/
def tryDequeueEvent : HeptaIBGatewayAdapter :=
  tryDequeueLoop ((a.api.map fun api => api.queue.events.length).getD 0 + 2) a

end HeptaIBGatewayAdapter

end Hepta
