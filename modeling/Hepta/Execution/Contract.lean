import Hepta.Journal.Event

/-!
# Commands, plans and venue results

The in-process data that crosses the execution authority (`execution_authority.h`,
`trading_contract.h`) and the outcomes that venue adapters return (`venue_*_result.h`).
-/

namespace Hepta

structure AgentExecutionContext where
  agentId : String := ""
  sessionId : String := ""
  toolCallId : String := ""
  strategy : String := ""
  account : String := ""
  venue : String := "IB"
  executionDomain : String := ""
  decisionLeaseFencingToken : Nat := 0
  decisionLeaseGeneration : Nat := 0
  allowCancelAny : Bool := false
deriving DecidableEq, Repr

/-- A command names its agent, its session and its tool call. -/
def AgentExecutionContext.identified (context : AgentExecutionContext) : Bool :=
  context.toolCallId ≠ "" && context.agentId ≠ "" && context.sessionId ≠ ""

structure InstrumentRef where
  symbol : String := ""
  secType : String := ""
  exchange : String := ""
  primaryExchange : String := ""
  currency : String := ""
  lastTradeDateOrContractMonth : String := ""
  right : String := ""
  strike : Double := .zero
  multiplier : String := ""
  tradingClass : String := ""
  localSymbol : String := ""
deriving DecidableEq, Repr

structure OrderIntent where
  action : String := ""
  orderType : String := ""
  positionEffect : String := ""
  totalQuantity : Double := .zero
  lmtPrice : Double := .zero
  auxPrice : Double := .zero
  outsideRth : Bool := false
  orderRef : String := ""
  cashQuantity : Double := .zero
deriving DecidableEq, Repr

structure PlaceOrderCommand where
  context : AgentExecutionContext
  contract : InstrumentRef := {}
  order : OrderIntent := {}
  instrument : String := ""
  timeInForce : String := ""
  referencePrice : Double := .zero
  expiresAtMs : Int := 0
deriving DecidableEq, Repr

structure CancelOrderCommand where
  context : AgentExecutionContext
  orderId : Int := -1
  instrument : String := ""
  side : String := ""
deriving DecidableEq, Repr

structure FlattenPositionCommand where
  context : AgentExecutionContext
  contract : InstrumentRef := {}
  instrument : String := ""
  hasAuthoritativePreviewSnapshot : Bool := false
  previewPositionQuantity : Double := .zero
  previewPositionConnectionEpoch : Nat := 0
  previewPositionGeneration : Nat := 0
  authoritativePreviewPlanBinding : String := ""
deriving DecidableEq, Repr

structure AuthoritativeFlattenPlan where
  contract : InstrumentRef := {}
  order : OrderIntent := {}
  instrument : String := ""
  timeInForce : String := ""
  referencePrice : Double := .zero
  expectedPositionQuantity : Double := .zero
  positionConnectionEpoch : Nat := 0
  positionGeneration : Nat := 0
  quoteSubscriptionId : String := ""
  quoteObservedAtMs : Nat := 0
  quoteStaleAfterMs : Nat := 0
  quoteBid : Double := .zero
  quoteAsk : Double := .zero
  profileOrderMode : String := ""
deriving DecidableEq, Repr

/-! ### Outcomes -/

inductive ExecutionCommandStatus
  | accepted
  | rejected
  | duplicate
  | uncertain
deriving DecidableEq, Repr

def ExecutionCommandStatus.name : ExecutionCommandStatus → String
  | .accepted  => "accepted"
  | .rejected  => "rejected"
  | .duplicate => "duplicate"
  | .uncertain => "uncertain"

structure ExecutionCommandResult where
  status : ExecutionCommandStatus := .rejected
  commandId : String := ""
  orderId : Int := -1
  reasonCode : String := ""
  detail : String := ""
deriving DecidableEq, Repr

inductive VenuePlaceDisposition
  | submitted
  | reserved
  | rejected
  | uncertain
deriving DecidableEq, Repr

/-- The last case is a value outside the enumeration, which the code answers with a null
rejection code. -/
inductive VenuePlaceRejection
  | generic
  | killSwitchEngaged
  | postFillRefreshPending
  | killSwitchUncertain
  | quoteBindingRequired
  | contractMismatch
  | quoteChangedBeforeSend
  | malformed
deriving DecidableEq, Repr

def VenuePlaceRejection.code : VenuePlaceRejection → Option String
  | .generic                => some "IB_PLACE_REJECT"
  | .killSwitchEngaged      => some "IB_PAPER_KILL_SWITCH_ENGAGED"
  | .postFillRefreshPending => some "IB_POST_FILL_RISK_REFRESH_PENDING"
  | .killSwitchUncertain    => some "IB_PAPER_KILL_SWITCH_STATE_UNCERTAIN"
  | .quoteBindingRequired   => some "IB_PAPER_PLACE_QUOTE_BINDING_REQUIRED"
  | .contractMismatch       => some "IB_PAPER_PLACE_CONTRACT_MISMATCH"
  | .quoteChangedBeforeSend => some "IB_PAPER_PLACE_QUOTE_CHANGED_BEFORE_SEND"
  | .malformed              => none

structure VenuePlaceResult where
  disposition : VenuePlaceDisposition := .uncertain
  orderId : Int := -1
  detail : String := ""
  rejection : VenuePlaceRejection := .generic
deriving DecidableEq, Repr

inductive VenueCancelDisposition
  | submitted
  | deferred
  | rejectedBeforeSend
  | uncertain
deriving DecidableEq, Repr

structure VenueCancelResult where
  disposition : VenueCancelDisposition := .uncertain
  detail : String := ""
deriving DecidableEq, Repr

inductive VenueFlattenDisposition
  | submitted
  | rejectedBeforeSend
  | uncertain
deriving DecidableEq, Repr

inductive VenueFlattenRejection
  | generic
  | quoteChangedBeforeSend
  | positionSnapshotMismatch
  | positionChangedBeforeSend
  | positionChangedBeforeNoop
  | activeOrderSnapshotUnsafe
  | notExactReduceOnly
  | killSwitchEngaged
  | killSwitchUncertain
  | brokerConnectionClosed
  | eventStreamOverflow
  | runtimeFatal
  | runtimeNotReady
  | malformed
deriving DecidableEq, Repr

def VenueFlattenRejection.code : VenueFlattenRejection → Option String
  | .generic                   => some "IB_FLATTEN_REJECT"
  | .quoteChangedBeforeSend    => some "IB_PAPER_FLATTEN_QUOTE_CHANGED_BEFORE_SEND"
  | .positionSnapshotMismatch  => some "IB_FLATTEN_POSITION_SNAPSHOT_MISMATCH"
  | .positionChangedBeforeSend => some "IB_FLATTEN_POSITION_CHANGED_BEFORE_SEND"
  | .positionChangedBeforeNoop => some "IB_FLATTEN_POSITION_CHANGED_BEFORE_NOOP"
  | .activeOrderSnapshotUnsafe => some "IB_FLATTEN_ACTIVE_ORDER_SNAPSHOT_UNSAFE"
  | .notExactReduceOnly        => some "IB_FLATTEN_NOT_EXACT_REDUCE_ONLY"
  | .killSwitchEngaged         => some "IB_PAPER_KILL_SWITCH_ENGAGED"
  | .killSwitchUncertain       => some "IB_PAPER_KILL_SWITCH_STATE_UNCERTAIN"
  | .brokerConnectionClosed    => some "IB_PAPER_BROKER_CONNECTION_CLOSED"
  | .eventStreamOverflow       => some "IB_PAPER_EVENT_STREAM_OVERFLOW"
  | .runtimeFatal              => some "IB_PAPER_RUNTIME_FATAL"
  | .runtimeNotReady           => some "IB_PAPER_RUNTIME_NOT_READY"
  | .malformed                 => none

structure VenueFlattenResult where
  disposition : VenueFlattenDisposition := .uncertain
  rejection : VenueFlattenRejection := .generic
  orderId : Int := -1
  detail : String := ""
deriving DecidableEq, Repr

end Hepta
