import Hepta.Library.Checked
import Hepta.Adapter.Terminal

/-!
# Active orders

The view of the open orders of the account. It is rebuilt by a download that ends with an event that
carries no request id; while it is complete, open orders that are reported and orders that are sent
are merged into it, and orders that have ended are removed from it.
-/

namespace Hepta

open IbVenueCorrelationCodec

namespace OrderCensus

open Checked

variable (c : OrderCensus)

def permanentIdTaken (orderId brokerClientId brokerPermId : Int) : Bool :=
  (c.orderByPermanentId.lookup brokerPermId).any fun owner => owner ≠ (brokerClientId, orderId)

def addPermanentId (orderId brokerClientId brokerPermId : Int) : Except String OrderCensus :=
  if 0 < brokerPermId then
    if c.permanentIdTaken orderId brokerClientId brokerPermId then
      .error "IB_ACTIVE_ORDER_PERMID_COLLISION"
    else
      .ok { c with
        orderByPermanentId := c.orderByPermanentId.insert brokerPermId (brokerClientId, orderId)
        unboundManualPermanentIds :=
          if orderId = 0 then insert brokerPermId c.unboundManualPermanentIds
          else c.unboundManualPermanentIds }
  else .ok { c with missingPermanentId := true }

def otherClient (orderId brokerClientId : Int) : Bool :=
  (c.clientIdsByOrderId.lookup orderId).any fun known => known ≠ brokerClientId

/-! ### Merging one order into a complete census -/

def correlationTaken (orderId : Int) (correlationId : String) : Bool :=
  (c.orderIdsByCorrelation.lookup correlationId).any (fun id => id ≠ orderId) ||
    c.orderIdsByCorrelation.entries.any fun entry =>
      entry.2 = orderId && entry.1 ≠ correlationId

def merge (clientId orderId : Int) (correlationId : String) (brokerClientId brokerPermId : Int) :
    Except String OrderCensus := do
  refuse (orderId < 0 ∨ brokerClientId < 0) "IB_ACTIVE_ORDER_ID_OR_CLIENT_INVALID"
  refuse (orderId = 0 ∧ (brokerClientId ≠ 0 ∨ brokerPermId ≤ 0 ∨ correlationId ≠ ""))
    "IB_UNBOUND_MANUAL_PERMID_REQUIRED"
  let c ← c.addPermanentId orderId brokerClientId brokerPermId
  refuse (c.otherClient orderId brokerClientId) "IB_ACTIVE_ORDER_CLIENT_ID_COLLISION"
  refuse (brokerClientId ≠ clientId ∧ correlationId ≠ "") "IB_FOREIGN_CLIENT_CORRELATION_INVALID"
  refuse (correlationId ≠ "" ∧ c.correlationTaken orderId correlationId)
    "IB_CORRELATION_INCREMENTAL_CONFLICT"
  return { c with
    orderIdsByCorrelation :=
      if correlationId = "" then c.orderIdsByCorrelation
      else c.orderIdsByCorrelation.insert correlationId orderId
    orderIds := insert orderId c.orderIds
    clientIdsByOrderId := c.clientIdsByOrderId.insert orderId brokerClientId }

/-- `ObserveIncrementalProtectiveMetadata` for an order of the account. -/
def observeProtective (e : IBEvent) : Except String OrderCensus := do
  let previous := c.protectiveCandidatesByPermId.lookup e.brokerPermId
  let candidate := makeIbVisibleProtectiveCandidate e
  refuse (!nativeAndLiteProtectiveShapeConsistent e)
    "IB_PROTECTIVE_NATIVE_LITE_INCREMENTAL_CONFLICT"
  if e.brokerPermId ≤ 0 then
    .ok { c with
      protectiveMetadataIncomplete :=
        c.protectiveMetadataIncomplete || isIbVisibleProtectiveCandidate e }
  else if !isIbVisibleProtectiveCandidate e then
    if previous.isSome then .error "IB_PROTECTIVE_INCREMENTAL_REMOVED_REQUIRES_REFRESH" else .ok c
  else if previous.any fun old => !sameIbVisibleProtectiveCandidate old candidate then
    .error "IB_PROTECTIVE_INCREMENTAL_CONFLICT_REQUIRES_REFRESH"
  else
    .ok { c with
      protectiveCandidatesByPermId :=
        c.protectiveCandidatesByPermId.insert e.brokerPermId candidate }

/-! ### The items of a download -/

def addProtective (e : IBEvent) : Except String OrderCensus :=
  let candidate := makeIbVisibleProtectiveCandidate e
  if !isIbVisibleProtectiveCandidate e then .ok c
  else if e.brokerPermId ≤ 0 then .ok { c with protectiveMetadataIncomplete := true }
  else if (c.protectiveCandidatesByPermId.lookup e.brokerPermId).any fun old =>
      !sameIbVisibleProtectiveCandidate old candidate then
    .error "IB_PROTECTIVE_PERMID_METADATA_CONFLICT"
  else
    .ok { c with
      protectiveCandidatesByPermId :=
        Dict.setDefault c.protectiveCandidatesByPermId e.brokerPermId candidate }

def addOrder (e : IBEvent) : Except String OrderCensus :=
  if c.otherClient e.id e.brokerClientId then .error "IB_ACTIVE_ORDER_CLIENT_ID_COLLISION"
  else
    .ok { c with
      clientIdsByOrderId := c.clientIdsByOrderId.insert e.id e.brokerClientId
      orderIds := insert e.id c.orderIds }

def addCorrelation (clientId : Int) (e : IBEvent) : Except String OrderCensus :=
  if e.brokerClientId ≠ clientId then .ok c
  else match decodeOrderRef e.order.orderRef with
    | .ok correlationId =>
      if (c.orderIdsByCorrelation.lookup correlationId).any fun id => id ≠ e.id then
        .error "IB_CORRELATION_DUPLICATE_CONFLICT"
      else
        .ok { c with
          orderIdsByCorrelation := c.orderIdsByCorrelation.insert correlationId e.id }
    | .error reason => if claimsHepta e.order.orderRef then .error reason else .ok c

/-- An open order of the account in a download, with the contradiction that it shows. -/
def download (clientId : Int) (e : IBEvent) : OrderCensus × Option String :=
  stages
    [fun c => c.addPermanentId e.id e.brokerClientId e.brokerPermId, fun c => c.addProtective e,
      fun c => c.addOrder e, fun c => c.addCorrelation clientId e] c

/-! ### Removing an order -/

/-- `RetireTerminalActiveOrder` for an order of the client. -/
def retire (clientId orderId : Int) : OrderCensus :=
  let permanentIds := c.orderByPermanentId.keysWhere fun owner => owner = (clientId, orderId)
  { c with
    orderIds := c.orderIds.erase orderId
    clientIdsByOrderId := c.clientIdsByOrderId.erase orderId
    protectiveCandidatesByPermId := c.protectiveCandidatesByPermId.eraseAll permanentIds
    orderByPermanentId := c.orderByPermanentId.eraseAll permanentIds
    orderIdsByCorrelation := c.orderIdsByCorrelation.eraseAll
      (c.orderIdsByCorrelation.keysWhere fun id => id = orderId) }

end OrderCensus

namespace ActiveView

/-- The view while a download is pending. -/
def begin (v : ActiveView) (connectionEpoch : ℕ) : ActiveView :=
  let generation := v.correlationGeneration + 1
  { correlationGeneration := generation
    refreshPending := true
    refreshConflict := false
    pending := {}
    connectionEpoch
    generation
    complete := false
    reasonCode := "IB_CORRELATION_REFRESH_PENDING"
    census := {} }

def conflict (v : ActiveView) (reason : String) : ActiveView :=
  { v with refreshConflict := true, reasonCode := reason }

/-- An open order while a download is pending. -/
def item (v : ActiveView) (cfg : HeptaIBConfig) (e : IBEvent) (accepted : Bool) : ActiveView :=
  if cfg.account = "" then v
  else if e.account = "" then v.conflict "IB_ACTIVE_ORDER_ACCOUNT_UNKNOWN"
  else if e.account ≠ cfg.account then v
  else if e.id < 0 then v.conflict "IB_ACTIVE_ORDER_ID_INVALID"
  else if e.brokerClientId < 0 then v.conflict "IB_ACTIVE_ORDER_CLIENT_ID_UNKNOWN"
  else if !accepted then v
  else if !nativeAndLiteProtectiveShapeConsistent e then
    v.conflict "IB_PROTECTIVE_NATIVE_LITE_SHAPE_CONFLICT"
  else if e.id = 0 ∧ (e.brokerClientId ≠ 0 ∨ e.brokerPermId ≤ 0) then
    v.conflict "IB_UNBOUND_MANUAL_PERMID_REQUIRED"
  else match v.pending.download cfg.clientId e with
    | (pending, none) => { v with pending }
    | (pending, some reason) => { v.conflict reason with pending }

/-- The end of the download. -/
def finish (v : ActiveView) (connectionEpoch : ℕ) (eventStreamAuthoritative : Bool) : ActiveView :=
  let complete := !v.refreshConflict && eventStreamAuthoritative
  { v with
    refreshPending := false
    pending := {}
    connectionEpoch
    generation := v.correlationGeneration
    complete
    reasonCode :=
      if complete then ""
      else if v.reasonCode = "" then "IB_CORRELATION_REFRESH_NOT_AUTHORITATIVE"
      else v.reasonCode
    census := if complete then v.pending else {} }

end ActiveView

namespace HeptaIBGatewayAdapter

variable (a : HeptaIBGatewayAdapter)

/-- What a check of the complete view leads to: its result, or the invalidation of the view. -/
def settleCensus : Except String OrderCensus → Bool × HeptaIBGatewayAdapter
  | .ok census => (true, { a with active := { a.active with census } })
  | .error reason => (false, a.invalidateCorrelationSnapshot reason)

def mergeIncrementalActiveOrder (orderId : Int) (correlationId : String)
    (brokerClientId brokerPermId : Int) : Bool × HeptaIBGatewayAdapter :=
  if !a.active.complete then (true, a)
  else a.settleCensus
    (a.active.census.merge a.cfg.clientId orderId correlationId brokerClientId brokerPermId)

variable (e : IBEvent)

def observeIncrementalProtectiveMetadata : HeptaIBGatewayAdapter :=
  if !a.active.complete ∨ e.type ≠ .openOrder ∨ e.account ≠ a.cfg.account ∨ e.id < 0 ∨
      e.brokerClientId < 0 then a
  else (a.settleCensus (a.active.census.observeProtective e)).2

/-- The statuses that leave a waiting cancel alone. -/
def isCancelTrigger (status : String) : Bool :=
  status = "" || status ∈ ["Accepted", "ApiPending", "PendingSubmit", "PreSubmitted", "Submitted",
    "PartiallyFilled", "PendingCancel", "PreCancelled", "Filled"]

/-- The order has ended, or is being cancelled already. -/
def endsPendingCancel (status : String) (economicTerminal : Bool) : Bool :=
  status = "Cancelled" || status = "ApiCancelled" || status = "Inactive" || status = "Rejected" ||
    (status = "Filled" && economicTerminal) || status = "PendingCancel" || status = "PreCancelled"

def dispatchPendingCancelIfAcknowledged (orderId : Int) (status : String)
    (economicTerminal authoritativeOpenOrderAck : Bool) : HeptaIBGatewayAdapter :=
  let claimed := a.pendingCancelOrderIds.erase orderId
  if orderId ∉ a.pendingCancelOrderIds ∨ a.api.isNone ∨ !a.connected then a
  else if endsPendingCancel status economicTerminal then { a with pendingCancelOrderIds := claimed }
  else if (status = "" ∧ !authoritativeOpenOrderAck) ∨ !isCancelTrigger status then a
  else match a.beginBrokerMutation "IB_RECOVERY_AUDIT_CANCEL_MUTATION" with
    | (false, a) => a
    | (true, a) => { a with pendingCancelOrderIds := claimed }.passToBroker (.cancel orderId)

/-! ### Open orders -/

/-- The order reference and the contract of an open order are complete enough to bind it. -/
def bindable : Bool :=
  let o := e.order
  let c := e.contract
  e.connectionEpoch = a.connectionEpoch && e.brokerClientId = a.cfg.clientId &&
    (o.action = "BUY" || o.action = "SELL") && c.symbol ≠ "" && c.secType ≠ "" &&
    c.currency ≠ "" && c.exchange ≠ "" && o.totalQuantity.isFinite && o.cashQuantity.isFinite &&
    (if Double.zero.lt o.cashQuantity then o.totalQuantity.eq .zero
      else o.cashQuantity.eq .zero && Double.zero.lt o.totalQuantity)

/-- The open order is the one that the id is bound to. -/
def boundAs (b : LiveTerminalBinding) (correlationId : String) (e : IBEvent) : Bool :=
  b.connectionEpoch = a.connectionEpoch && b.correlationId = correlationId &&
    b.side = e.order.action && b.quantity.eq e.order.totalQuantity &&
    b.cashQuantity.eq e.order.cashQuantity && matchesSubmittedIBContract b.contract e.contract

/-- The binding of an order that was sent or reported in this connection. -/
def bindOrder (orderId : Int) (correlationId : String) (contract : InstrumentRef)
    (order : OrderIntent) : HeptaIBGatewayAdapter :=
  { a with
    terminal := { a.terminal with
      liveTerminalBindings := a.terminal.liveTerminalBindings.insert orderId
        { connectionEpoch := a.connectionEpoch
          correlationId
          contract
          side := order.action
          quantity := order.totalQuantity
          cashQuantity := order.cashQuantity } } }

def bindOpenOrder : HeptaIBGatewayAdapter :=
  if !a.bindable e then a
  else match decodeOrderRef e.order.orderRef with
    | .error _ => a
    | .ok correlationId =>
      match a.binding e.id with
      | none => a.bindOrder e.id correlationId e.contract e.order
      | some b =>
        if a.boundAs b correlationId e then a
        else
          (a.invalidateCorrelationSnapshot "IB_RECOVERED_ORDER_BINDING_CONFLICT")
            |>.invalidateTerminalCorrelationSnapshot "IB_RECOVERED_ORDER_BINDING_CONFLICT"

/-- The lifecycle accepts an open order of the client unless it has ended. The orders of other
clients are only counted. -/
def acceptOpenOrder : Bool × HeptaIBGatewayAdapter :=
  if e.brokerClientId = a.cfg.clientId ∧ 0 < e.id then
    let (accepted, orderLifecycle) := a.orderLifecycle.recordBrokerOpenOrder e.id e.value
    (accepted, { a with orderLifecycle })
  else (0 ≤ e.brokerClientId, a)

def acknowledgeOpenOrder : Bool × HeptaIBGatewayAdapter :=
  if e.id < 0 then (false, a)
  else
    let (accepted, a) := a.acceptOpenOrder e
    if !accepted then (false, a)
    else
      let a := a.bindOpenOrder e
      if e.brokerClientId = a.cfg.clientId ∧ 0 < e.id then
        (true, a.dispatchPendingCancelIfAcknowledged e.id e.value (e.value ≠ "Filled") true)
      else (true, a)

def activeSettled : Bool := !a.active.refreshPending && a.active.complete

def mergeOpenOrder : Bool × HeptaIBGatewayAdapter :=
  if e.brokerClientId ≠ a.cfg.clientId then
    a.mergeIncrementalActiveOrder e.id "" e.brokerClientId e.brokerPermId
  else match decodeOrderRef e.order.orderRef with
    | .ok correlationId =>
      a.mergeIncrementalActiveOrder e.id correlationId e.brokerClientId e.brokerPermId
    | .error reason =>
      if claimsHepta e.order.orderRef then (false, a.invalidateCorrelationSnapshot reason)
      else a.mergeIncrementalActiveOrder e.id "" e.brokerClientId e.brokerPermId

def mergeAcceptedOpenOrder : HeptaIBGatewayAdapter :=
  let (merged, a) := a.mergeOpenOrder e
  if merged && a.active.complete then a.observeIncrementalProtectiveMetadata e else a

/-- An open order of the account, outside of a download. -/
def correlateOwnAccount : Bool × HeptaIBGatewayAdapter :=
  let (accepted, a) := a.acknowledgeOpenOrder e
  let a := if e.brokerClientId < 0 ∧ a.activeSettled then
      a.invalidateCorrelationSnapshot "IB_ACTIVE_ORDER_CLIENT_ID_UNKNOWN"
    else a
  (accepted, if accepted && a.activeSettled then a.mergeAcceptedOpenOrder e else a)

/-- An open order whose account is not known may be one of ours. -/
def correlateOpenOrderEvent : Bool × HeptaIBGatewayAdapter :=
  if e.type ≠ .openOrder ∨ a.cfg.account = "" then (false, a)
  else if e.account = "" then
    (false,
      if a.activeSettled then a.invalidateCorrelationSnapshot "IB_ACTIVE_ORDER_ACCOUNT_UNKNOWN"
      else a)
  else if e.account ≠ a.cfg.account then (false, a)
  else a.correlateOwnAccount e

def beginOpenOrderRefresh : Bool × HeptaIBGatewayAdapter :=
  if a.postFillReconciliationOrderIds ≠ ∅ then (false, a)
  else if a.active.refreshPending then (false, a)
  else if !a.apiConnected then
    (false, a.invalidateCorrelationSnapshot "IB_CORRELATION_REFRESH_DISCONNECTED")
  else if a.active.correlationGeneration = uint64Max then
    (false, a.invalidateCorrelationSnapshot "IB_CORRELATION_GENERATION_EXHAUSTED")
  else (true, { a with active := a.active.begin a.connectionEpoch })

def applyActiveCorrelationEvent (accepted : Bool) : HeptaIBGatewayAdapter :=
  if !a.active.refreshPending then a
  else match e.type with
    | .openOrder => { a with active := a.active.item a.cfg e accepted }
    | .openOrderEnd =>
      { a with active := a.active.finish a.connectionEpoch a.eventStreamAuthoritative }
    | _ => a

/-! ### Orders that have ended -/

def retireTerminalActiveOrder (orderId : Int) : HeptaIBGatewayAdapter :=
  if orderId ∈ a.postFillReconciliationOrderIds ∨ !a.active.complete then a
  else if a.active.census.otherClient orderId a.cfg.clientId then a
  else
    { a with
      active := { a.active with census := a.active.census.retire a.cfg.clientId orderId } }

def acknowledgePostFillRiskReconciled (orderId : Int) : Bool × HeptaIBGatewayAdapter :=
  match a.postFillExposureGenerationByOrderId.lookup orderId with
  | none => (false, a)
  | some exposure =>
    if orderId < 0 ∨ !a.risk.snapshot.complete ∨ !a.risk.snapshot.coherentRefreshComplete ∨
        a.risk.snapshot.riskAbsorbedExposureGeneration < exposure ∨
        orderId ∉ a.postFillReconciliationOrderIds then (false, a)
    else
      (true,
        { a with
          postFillReconciliationOrderIds := a.postFillReconciliationOrderIds.erase orderId
          postFillExposureGenerationByOrderId :=
            a.postFillExposureGenerationByOrderId.erase orderId }
          |>.retireTerminalActiveOrder orderId)

/-- The end of an order of another client that the complete view counts. -/
def applyForeignStatus : HeptaIBGatewayAdapter :=
  if a.active.complete ∧ isIbFinalStatus e.key ∧ 0 ≤ e.id ∧
      (e.account = "" ∨ e.account = a.cfg.account) ∧
      a.active.census.clientIdsByOrderId.lookup e.id = some e.brokerClientId then
    a.invalidateCorrelationSnapshot "IB_FOREIGN_TERMINAL_REQUIRES_GLOBAL_REFRESH"
  else a

/-- A final status is the end of the order, a fill only with its economics. -/
def economicTerminal : Bool := e.key ≠ "Filled" || hasEconomicFillEvidence e

def applyOrderStatusTransition : HeptaIBGatewayAdapter :=
  if 0 ≤ e.brokerClientId ∧ e.brokerClientId ≠ a.cfg.clientId then a.applyForeignStatus e
  else
    let a := { a with
      orderLifecycle := a.orderLifecycle.recordBrokerStatus e.id e.key (economicTerminal e) }
    let a := a.dispatchPendingCancelIfAcknowledged e.id e.key (economicTerminal e) false
    if isIbFinalStatus e.key && economicTerminal e then a.retireTerminalActiveOrder e.id else a

/-- An error that ends its order. The size of a bound order could not be parsed in the case of 320. -/
def terminalErrorStatus : Option String :=
  match parseBrokerErrorCode e.key with
  | none => none
  | some code =>
    if e.id < 0 then none
    else if code = 202 then some "Cancelled"
    else if code = 201 then some "Rejected"
    else if isIbOrderSizeParseRejection320 e && e.connectionEpoch = a.connectionEpoch &&
        (a.binding e.id).any fun b => b.connectionEpoch = a.connectionEpoch then some "Rejected"
    else none

/-- The complete view counts the id for another client. -/
def mappedForeign : Bool :=
  a.active.complete && a.active.census.otherClient e.id a.cfg.clientId

/-- The error is not about an order of the client, as far as is known. -/
def errorOutOfScope : Bool :=
  (decide (0 ≤ e.brokerClientId) && e.brokerClientId ≠ a.cfg.clientId) ||
    (e.account ≠ "" && e.account ≠ a.cfg.account) ||
    (decide (e.brokerClientId < 0) && a.mappedForeign e)

def applyForeignError : HeptaIBGatewayAdapter :=
  if a.mappedForeign e ∧ (e.account = "" ∨ e.account = a.cfg.account) ∧
      (e.brokerClientId < 0 ∨
        a.active.census.clientIdsByOrderId.lookup e.id = some e.brokerClientId) then
    a.invalidateCorrelationSnapshot "IB_FOREIGN_TERMINAL_ERROR_REQUIRES_GLOBAL_REFRESH"
  else a

def applyBrokerErrorTransition : HeptaIBGatewayAdapter :=
  match a.terminalErrorStatus e with
  | none => a
  | some status =>
    if a.errorOutOfScope e then a.applyForeignError e
    else
      { a with orderLifecycle := a.orderLifecycle.recordBrokerStatus e.id status true }
        |>.dispatchPendingCancelIfAcknowledged e.id status true false
        |>.retireTerminalActiveOrder e.id

end HeptaIBGatewayAdapter

end Hepta
