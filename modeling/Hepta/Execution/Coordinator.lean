import Hepta.Library.Map
import Hepta.Journal.Oms
import Hepta.Execution.Contract

/-!
# The execution coordinator

The state behind the coordinator mutex, the keys and events that every operation uses, and
the small helpers of `execution_coordinator.cpp`.
-/

namespace Hepta

/-- `RequestRecord::operation`; a record starts without one. -/
inductive Operation
  | unset
  | place
  | cancel
  | flatten
deriving DecidableEq, Repr

structure RequestRecord where
  status : ExecutionCommandStatus := .uncertain
  orderId : Int := -1
  reasonCode : String := ""
  detail : String := ""
  requestHash : String := ""
  venueCorrelationId : String := ""
  operation : Operation := .unset
  context : AgentExecutionContext := {}
  instrument : String := ""
  side : String := ""
  quantity : Double := .zero
  price : Double := .zero
  durableMutationIntent : Bool := false
deriving DecidableEq, Repr

structure ExecutionOrderOwner where
  agentId : String := ""
  sessionId : String := ""
  strategy : String := ""
  account : String := ""
  executionDomain : String := ""
  instrument : String := ""
  side : String := ""
  venueCorrelationId : String := ""
  commandId : String := ""
deriving DecidableEq, Repr

structure PlaceSendAttempt where
  requestKey : String
  account : String
  executionDomain : String
  tsMs : Int
deriving DecidableEq, Repr

structure RiskMutationDispatchScope where
  ownerKey : String
  account : String
  executionDomain : String
  instrument : String
  symbol : String
deriving DecidableEq, Repr

structure PaperTerminalFenceBinding where
  owner : AgentExecutionContext := {}
  finalizationId : String := ""
  preliminaryReceiptSha256 : String := ""
  recoveryIngressFence : UInt64 := 0
  serviceEpoch : String := ""
  serviceFencingGeneration : UInt64 := 0
  serviceProcessId : UInt64 := 0
  serviceProcessStartTicks : UInt64 := 0
  brokerConnectionEpoch : UInt64 := 0
  brokerSocketIdentitySha256 : String := ""
deriving DecidableEq, Repr

/-- The coordinator's memory. -/
structure Coordinator where
  requests : UMap String RequestRecord := ∅
  orderOwners : UMap Int ExecutionOrderOwner := ∅
  accountNewEntryFences : Finset String := ∅
  fencedSessionOwners : Finset String := ∅
  recoveryOnlySessionOwners : UMap String UInt64 := ∅
  resumedRecoveryIngress : UMap String UInt64 := ∅
  placeSendAttempts : List PlaceSendAttempt := []
  placeSendAttemptKeys : Finset String := ∅
  mutationBlocked : Bool := false
  mutationBlockReason : String := ""
  riskMutationDispatches : UMap String RiskMutationDispatchScope := ∅
  venueDispatchesInFlight : Nat := 0
  cancelPreflightsInFlight : Finset Int := ∅
  paperTerminalFencePresent : Bool := false
  paperTerminalFenceBinding : PaperTerminalFenceBinding := {}
deriving DecidableEq

/-- `VenuePlacement`: no venue, one that submits at once, or one that reserves and then
activates. -/
inductive VenuePlacement
  | disabled
  | immediate
  | reserving
deriving DecidableEq, Repr

/-- Which callbacks the process installed. The constructor of the coordinator refuses a
reserving venue without an owner projection. -/
structure ExecutionCoordinatorCallbacks where
  placement : VenuePlacement := .disabled
  preVenuePlaceCheck : Bool := false
  preVenueFlattenCheck : Bool := false
  proveAndCommitIbFlatNoop : Bool := false
  cancelOrder : Bool := false
  flattenOrder : Bool := false
  canCancelIbOrder : Bool := false
  validateDecisionLease : Bool := false
  onIbOrderPlaced : Bool := false
  onIbCancelSent : Bool := false
  reserving_projects : placement = .reserving → onIbOrderPlaced = true := by decide

/-- What stays fixed over the life of a service: its settings, its callbacks, the digest
and the printing of doubles that the C++ library provides. -/
structure Service where
  config : OmsJournalConfig := {}
  callbacks : ExecutionCoordinatorCallbacks
  sha256 : String → String
  formatDouble : Double → String

def Service.requiresActivation (S : Service) : Bool := S.callbacks.placement = .reserving

/-! ### Keys -/

def requestKey (agentId sessionId toolCallId : String) : String :=
  agentId ++ "\x1f" ++ sessionId ++ "\x1f" ++ toolCallId

def AgentExecutionContext.requestKey (context : AgentExecutionContext) : String :=
  Hepta.requestKey context.agentId context.sessionId context.toolCallId

def ownerKey (agentId sessionId : String) : String :=
  toString agentId.utf8ByteSize ++ ":" ++ agentId ++ sessionId

def agentSourcePrefix : String := "agent.tool:"

def agentSource (agentId : String) : String := agentSourcePrefix ++ agentId

def agentIdFromSource (source : String) : String :=
  if agentSourcePrefix.toList.isPrefixOf source.toList then
    String.ofList (source.toList.drop agentSourcePrefix.toList.length)
  else ""

/-! ### Canonical requests -/

def canonicalField (name value : String) : String :=
  name ++ "=" ++ toString value.utf8ByteSize ++ ":" ++ value ++ ";"

def canonicalFields (fields : List (String × String)) : String :=
  fields.foldl (fun out field => out ++ canonicalField field.1 field.2) ""

def hexDigit (n : Nat) : Char := "0123456789abcdef".toList.getD n '0'

/-- `CanonicalDouble`: the sixteen hexadecimal digits of the bit pattern. -/
def canonicalDouble (d : Double) : String :=
  String.ofList ((List.range 16).map fun i => hexDigit (d.bits.toNat / 16 ^ (15 - i) % 16))

def canonicalContext (context : AgentExecutionContext) : List (String × String) :=
  [("strategy", context.strategy), ("account", context.account), ("venue", context.venue),
    ("execution_domain", context.executionDomain)]

/-- The contract fields, in the order in which both request hashes append them. -/
def canonicalContract (contract : InstrumentRef) : List (String × String) :=
  [("contract.symbol", contract.symbol), ("contract.sec_type", contract.secType),
    ("contract.exchange", contract.exchange),
    ("contract.primary_exchange", contract.primaryExchange),
    ("contract.currency", contract.currency),
    ("contract.contract_month", contract.lastTradeDateOrContractMonth),
    ("contract.right", contract.right), ("contract.strike", canonicalDouble contract.strike),
    ("contract.multiplier", contract.multiplier),
    ("contract.trading_class", contract.tradingClass),
    ("contract.local_symbol", contract.localSymbol)]

variable (S : Service)

def placeRequestHash (command : PlaceOrderCommand) : String :=
  S.sha256 <| canonicalFields <|
    [("operation", "place_ib_order")] ++ canonicalContext command.context ++
    [("instrument", command.instrument),
      ("reference_price", canonicalDouble command.referencePrice),
      ("expires_at_ms", toString command.expiresAtMs),
      ("time_in_force", command.timeInForce)] ++
    canonicalContract command.contract ++
    [("order.action", command.order.action), ("order.order_type", command.order.orderType),
      ("order.position_effect", command.order.positionEffect),
      ("order.quantity", canonicalDouble command.order.totalQuantity)] ++
    (if command.order.cashQuantity.eq .zero then []
      else [("order.cash_quantity", canonicalDouble command.order.cashQuantity)]) ++
    [("order.limit_price", canonicalDouble command.order.lmtPrice),
      ("order.aux_price", canonicalDouble command.order.auxPrice),
      ("order.outside_rth", if command.order.outsideRth then "1" else "0"),
      ("order.order_ref", command.order.orderRef)]

def cancelRequestHash (command : CancelOrderCommand) : String :=
  S.sha256 <| canonicalFields <|
    [("operation", "cancel_ib_order")] ++ canonicalContext command.context ++
    [("order_id", toString command.orderId), ("instrument", command.instrument),
      ("side", command.side)]

def flattenHash (command : FlattenPositionCommand) : String :=
  S.sha256 <| canonicalFields <|
    [("operation", "flatten_position")] ++ canonicalContext command.context ++
    [("instrument", command.instrument)] ++ canonicalContract command.contract

def venueCorrelationId (context : AgentExecutionContext) (requestHash : String) : String :=
  if context.agentId = "" ∨ context.sessionId = "" ∨ context.toolCallId = "" ∨
      requestHash = "" then ""
  else "hepta-v1-" ++ S.sha256 (canonicalFields
    [("agent_id", context.agentId), ("session_id", context.sessionId),
      ("command_id", context.toolCallId), ("request_hash", requestHash)])

/-- `ExecutionCoordinator::BuildEvent`, at the time `tsMs` that it reads from the clock. -/
def buildEvent (tsMs : Int) (context : AgentExecutionContext) (eventType : EventType)
    (orderId : Int) (instrument side : String) (qty price : Double)
    (status reason riskCode : String) (requestHash venueCorrelationId : String) :
    OmsJournalEvent where
  eventType := eventType
  tsMs := tsMs
  orderId := orderId
  reqId := context.toolCallId
  clientReqId := context.toolCallId
  traceId := context.sessionId
  eventId :=
    if context.toolCallId = "" then ""
    else context.toolCallId ++ ":" ++ eventType.name ++ ":" ++ status ++ ":" ++
      toString orderId ++ (if riskCode = "" then "" else ":" ++ riskCode)
  riskCode := riskCode
  venue := if context.venue = "" then "IB" else context.venue
  strategy := context.strategy
  account := context.account
  executionDomain := context.executionDomain
  requestHash := requestHash
  venueCorrelationId := venueCorrelationId
  instrument := instrument
  side := side
  qty := qty
  price := price
  status := status
  reason := reason
  source := agentSource context.agentId

/-- The owner that a receipt or an accepted resolution of `context`'s command records. -/
def orderOwner (context : AgentExecutionContext) (instrument side correlation : String) :
    ExecutionOrderOwner where
  agentId := context.agentId
  sessionId := context.sessionId
  strategy := context.strategy
  account := context.account
  executionDomain := context.executionDomain
  instrument := instrument
  side := side
  venueCorrelationId := correlation
  commandId := context.toolCallId

/-! ### Reason codes -/

def recoveryReconcileRequired : String := "RECOVERY_RECONCILE_REQUIRED"

def brokerResultPending : String := "BROKER_RESULT_PENDING"

def isProjectionFailureReason (reason : String) : Bool :=
  reason = "AUTHORITATIVE_ORDER_PROJECTION_FAILED" ||
  reason = "AUTHORITATIVE_CANCEL_PROJECTION_FAILED" ||
  reason = "AUTHORITATIVE_FLATTEN_PROJECTION_FAILED"

def isRecoverableCancelReason (reason : String) : Bool :=
  reason = recoveryReconcileRequired || reason = "IB_CANCEL_DEFERRED_UNTIL_BROKER_ACK"

end Hepta
