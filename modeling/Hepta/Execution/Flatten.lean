import Hepta.Execution.Cancel

/-!
# Flattening a position

`ExecuteAuthoritativeFlattenLocked` and its dispatch, with the no-op of a position that is
already flat (`execution_authoritative_flatten.cpp`,
`execution_authoritative_flatten_dispatch.cpp`).
-/

namespace Hepta

def sameContract (left right : InstrumentRef) : Bool :=
  left.symbol = right.symbol && left.secType = right.secType &&
  left.exchange = right.exchange && left.primaryExchange = right.primaryExchange &&
  left.currency = right.currency &&
  left.lastTradeDateOrContractMonth = right.lastTradeDateOrContractMonth &&
  left.right = right.right && left.strike.eq right.strike &&
  left.multiplier = right.multiplier && left.tradingClass = right.tradingClass &&
  left.localSymbol = right.localSymbol

namespace AuthoritativeFlattenPlan

def unitQuantity : Double := ⟨0x3ff0000000000000⟩

def qualificationQuantity : Double := ⟨0x412e848000000000⟩

variable (plan : AuthoritativeFlattenPlan) (position quantity : Double)

def exactExternalLimitDayReduceOnly : Bool :=
  ((plan.profileOrderMode = "EXTERNAL_P1_CANARY_LMT_DAY" && quantity.le unitQuantity) ||
    (plan.profileOrderMode = "EXTERNAL_QUALIFICATION_LMT_DAY" &&
      quantity.le qualificationQuantity)) &&
  plan.order.orderType = "LMT" &&
  plan.quoteBid.isFinite && Double.zero.lt plan.quoteBid &&
  plan.quoteAsk.isFinite && plan.quoteBid.le plan.quoteAsk &&
  Double.zero.lt plan.order.lmtPrice && plan.referencePrice.eq plan.order.lmtPrice &&
  ((plan.order.action = "SELL" && plan.order.lmtPrice.eq plan.quoteBid) ||
    (plan.order.action = "BUY" && plan.order.lmtPrice.eq plan.quoteAsk)) &&
  quantity.eq position.abs

def exactLocalMarketReduceOnly : Bool :=
  plan.profileOrderMode = "" && plan.order.orderType = "MKT" &&
  plan.order.lmtPrice.eq .zero && Double.zero.lt plan.referencePrice &&
  quantity.le position.abs

/-- The crypto lot test of `ExactReduceOnly`; the product is taken exactly here. -/
def wholeSatoshis (quantity : Double) : Bool :=
  let lots := quantity.toRat * 100000000
  |lots - round lots| ≤ 1 / 10000000

/-- The crypto branch of `ExactReduceOnly`. -/
def exactCryptoReduceOnly : Bool :=
  plan.profileOrderMode = "USER_CRYPTO_MKT_IOC" && plan.instrument = "BTC.USD" &&
  plan.contract.symbol = "BTC" && plan.contract.secType = "CRYPTO" &&
  plan.contract.exchange = "PAXOS" && plan.contract.currency = "USD" &&
  plan.timeInForce = "IOC" && plan.order.orderType = "MKT" && plan.order.action = "SELL" &&
  Double.zero.lt position && quantity.eq position && plan.order.cashQuantity.eq .zero &&
  wholeSatoshis quantity &&
  plan.quoteBid.isFinite && Double.zero.lt plan.quoteBid &&
  plan.quoteAsk.isFinite && plan.quoteBid.le plan.quoteAsk &&
  plan.order.lmtPrice.eq .zero && plan.referencePrice.eq plan.quoteBid

/-- `FlattenAuditPrice`. -/
def auditPrice : Double :=
  if Double.zero.lt plan.order.lmtPrice then plan.order.lmtPrice else plan.referencePrice

def snapshotEvidence (S : Service) (plan : AuthoritativeFlattenPlan) : String :=
  "position_connection_epoch=" ++ toString plan.positionConnectionEpoch ++
  ";position_generation=" ++ toString plan.positionGeneration ++
  ";position_quantity=" ++ S.formatDouble plan.expectedPositionQuantity ++
  ";quote_subscription_id=" ++ plan.quoteSubscriptionId ++
  ";quote_observed_at_ms=" ++ toString plan.quoteObservedAtMs ++
  ";quote_stale_after_ms=" ++ toString plan.quoteStaleAfterMs ++
  ";contract_symbol=" ++ plan.contract.symbol ++
  ";contract_sec_type=" ++ plan.contract.secType ++
  ";contract_exchange=" ++ plan.contract.exchange ++
  ";contract_currency=" ++ plan.contract.currency ++
  (if plan.profileOrderMode = "" then ""
    else ";quote_bid=" ++ S.formatDouble plan.quoteBid ++
      ";quote_ask=" ++ S.formatDouble plan.quoteAsk ++
      ";profile_order_mode=" ++ plan.profileOrderMode)

end AuthoritativeFlattenPlan

def exactReduceOnly (command : FlattenPositionCommand) (plan : AuthoritativeFlattenPlan) : Bool :=
  let position := plan.expectedPositionQuantity
  let quantity := plan.order.totalQuantity
  plan.order.cashQuantity.eq .zero && command.instrument ≠ "" &&
  command.instrument = plan.instrument && sameContract command.contract plan.contract &&
  command.hasAuthoritativePreviewSnapshot && command.authoritativePreviewPlanBinding ≠ "" &&
  command.previewPositionQuantity.isFinite && position.isFinite &&
  command.previewPositionConnectionEpoch ≠ 0 && command.previewPositionGeneration ≠ 0 &&
  plan.positionConnectionEpoch ≠ 0 && plan.positionGeneration ≠ 0 &&
  command.previewPositionConnectionEpoch = plan.positionConnectionEpoch &&
  command.previewPositionGeneration = plan.positionGeneration &&
  command.previewPositionQuantity.eq position &&
  (if position.eq .zero then plan.order.action = "" && quantity.eq .zero
    else
      (plan.timeInForce = "DAY" ||
        (plan.profileOrderMode = "USER_CRYPTO_MKT_IOC" && plan.timeInForce = "IOC")) &&
      quantity.isFinite && plan.order.lmtPrice.isFinite && plan.referencePrice.isFinite &&
      !quantity.le .zero &&
      (plan.exactExternalLimitDayReduceOnly position quantity ||
        plan.exactLocalMarketReduceOnly position quantity ||
        plan.exactCryptoReduceOnly position quantity) &&
      ((Double.zero.lt position && plan.order.action = "SELL") ||
        (position.lt .zero && plan.order.action = "BUY")))

def isCanonicalNoopProveRejectCode (value : String) : Bool :=
  ["IB_FLATTEN_POSITION_SNAPSHOT_MISMATCH", "IB_FLATTEN_POSITION_CHANGED_BEFORE_NOOP",
    "IB_FLATTEN_ACTIVE_ORDER_SNAPSHOT_UNSAFE", "IB_PAPER_KILL_SWITCH_READER_REQUIRED",
    "IB_PAPER_KILL_SWITCH_ENGAGED", "IB_PAPER_KILL_SWITCH_STATE_UNCERTAIN",
    "IB_PAPER_BROKER_CONNECTION_CLOSED", "IB_PAPER_EVENT_STREAM_OVERFLOW",
    "IB_PAPER_RUNTIME_FATAL", "IB_PAPER_RUNTIME_NOT_READY"].contains value

/-- What the prove-and-commit callback does: it answers without the commit, or calls it once and
answers with its result. -/
inductive NoopReply
  | withoutCommit (reply : CheckReply)
  | commits (reason : String)
deriving DecidableEq, Repr

/-- What the outside world answers while a flatten is admitted and prepared. -/
structure FlattenReplies where
  leaseValid : Bool := true
  leaseReason : String := ""
  noop : NoopReply := .commits ""
  preVenue : CheckReply := .returned true ""

namespace System

variable (S : Service) (s : System)

def riskMutationConflicts (context : AgentExecutionContext) (instrument : String)
    (contract : InstrumentRef) : Prop :=
  ∃ key ∈ s.riskMutationDispatches.keys, ∃ scope ∈ s.riskMutationDispatches.lookup key,
    scope.account = "" ∨ context.account = "" ∨
    scope.executionDomain = "" ∨ context.executionDomain = "" ∨
    scope.instrument = "" ∨ instrument = "" ∨ scope.symbol = "" ∨ contract.symbol = "" ∨
    (scope.account = context.account ∧
      (scope.instrument = instrument ∨ scope.symbol = contract.symbol))
deriving Decidable

/-- The outcome of the admission checks of a flatten: refused without a trace, rejected with
an audit record, or admitted. -/
inductive FlattenAdmission
  | refused (result : ExecutionCommandResult)
  | rejected (reasonCode detail : String)
  | admitted
deriving DecidableEq, Repr

variable (command : FlattenPositionCommand) (plan : AuthoritativeFlattenPlan)

/-- The checks of `ExecuteAuthoritativeFlattenLocked`, in their order. -/
def flattenAdmission (replies : FlattenReplies) : FlattenAdmission :=
  let context := command.context
  if !context.identified then
    .refused (refuseBeforeIntent context "INVALID_AGENT_CONTEXT"
      "agent_id, session_id and tool_call_id are required")
  else if flattenHash S command = "" then
    .refused (refuseBeforeIntent context "REQUEST_HASH_FAILED"
      "canonical flatten request hashing failed")
  else match s.requests.lookup context.requestKey with
    | some existing => .refused (s.existingResult context (flattenHash S command) existing)
    | none =>
      if ownerKey context.agentId context.sessionId ∈ s.fencedSessionOwners then
        .rejected "SESSION_OWNER_FENCED" "revoked or expired session owner cannot mutate"
      else if s.mutationBlocked then .rejected "MUTATION_BLOCKED" s.mutationBlockReason
      else if s.riskMutationConflicts context command.instrument plan.contract then
        .refused (refuseBeforeIntent context "MUTATION_BLOCKED"
          "a risk mutation in the same or unknown instrument scope is at the venue boundary")
      else if !exactReduceOnly command plan then
        .rejected "AUTHORITATIVE_FLATTEN_PLAN_INVALID"
          "flatten plan is not a bounded strict reduce-only order"
      else if context.executionDomain ≠ "" ∧ (context.decisionLeaseFencingToken = 0 ∨
          context.decisionLeaseGeneration = 0 ∨ !S.callbacks.validateDecisionLease) then
        .rejected "DECISION_LEASE_REQUIRED" "flatten mutation lacks a server-validated lease"
      else if context.executionDomain ≠ "" ∧ !replies.leaseValid then
        .rejected "DECISION_LEASE_INVALID" replies.leaseReason
      else .admitted

def flattenDispatch : AuthoritativeFlattenDispatchContext :=
  let requestHash := flattenHash S command
  { requestKey := command.context.requestKey
    requestHash := requestHash
    venueCorrelationId := venueCorrelationId S command.context requestHash
    snapshotEvidence := plan.snapshotEvidence S }

def flattenEvent (tsMs : Int) (command : FlattenPositionCommand) (plan : AuthoritativeFlattenPlan)
    (dispatch : AuthoritativeFlattenDispatchContext) (eventType : EventType) (orderId : Int)
    (status reason riskCode : String) : OmsJournalEvent :=
  buildEvent tsMs command.context eventType orderId command.instrument plan.order.action
    plan.order.totalQuantity plan.auditPrice status reason riskCode dispatch.requestHash
    dispatch.venueCorrelationId

variable (dispatch : AuthoritativeFlattenDispatchContext)

/-- The record of a flatten whose venue result is awaited. -/
def pendingFlatten : RequestRecord where
  status := .uncertain
  reasonCode := brokerResultPending
  requestHash := dispatch.requestHash
  venueCorrelationId := dispatch.venueCorrelationId
  operation := .flatten
  context := command.context
  instrument := command.instrument
  side := plan.order.action
  quantity := plan.order.totalQuantity
  price := plan.auditPrice
  durableMutationIntent := true

def rejectFlatten (reasonCode detail : String) (tsMs : Int) (file : AppendIo) :
    System × ExecutionCommandResult :=
  let event := flattenEvent tsMs command plan dispatch .flattenReject (-1) "rejected" detail
    reasonCode
  match s.appendOrBlock S event "OMS_FLATTEN_REJECT_WRITE_FAILED" file with
  | (false, s) =>
    s.reject command.context "OMS_FLATTEN_REJECT_WRITE_FAILED" "flatten rejection audit failed"
      (-1) dispatch.requestHash
  | (true, s) =>
    let (s, rejected) := s.reject command.context reasonCode detail (-1) dispatch.requestHash
    (s.modifyRecord dispatch.requestKey fun record => { record with
      venueCorrelationId := dispatch.venueCorrelationId
      operation := .flatten
      context := command.context
      instrument := command.instrument
      side := plan.order.action
      quantity := plan.order.totalQuantity
      price := plan.auditPrice }, rejected)

def completeFlattenNoop (reply : NoopReply) (io : Io) : System × ExecutionCommandResult :=
  if !S.callbacks.proveAndCommitIbFlatNoop then
    s.rejectFlatten S command plan dispatch "IB_FLATTEN_PROVE_FLAT_CALLBACK_MISSING"
      "adapter-lock prove-and-commit callback is not configured" (io.clock 1) (io.file 1)
  else match reply with
    | .withoutCommit reply =>
      let (provedFlat, answered) := reply.eval "adapter-lock prove-flat callback threw"
      if provedFlat then
        s.rejectFlatten S command plan dispatch "IB_FLATTEN_NOOP_COMMIT_CALLBACK_INVALID"
          "adapter accepted no-op without durable commit" (io.clock 1) (io.file 1)
      else
        let proveReason := if answered = "" then "IB_FLATTEN_POSITION_SNAPSHOT_MISMATCH"
          else answered
        s.rejectFlatten S command plan dispatch
          (if isCanonicalNoopProveRejectCode proveReason then proveReason
            else "IB_FLATTEN_PROVE_FLAT_REJECT")
          proveReason (io.clock 1) (io.file 1)
    | .commits _ =>
      let noPosition := buildEvent (io.clock 1) command.context .flattenNoop (-1)
        command.instrument "" .zero .zero "accepted" dispatch.snapshotEvidence
        "POSITION_ALREADY_FLAT" dispatch.requestHash dispatch.venueCorrelationId
      match s.appendOrBlock S noPosition "OMS_FLATTEN_NOOP_WRITE_FAILED" (io.file 1) with
      | (false, s) =>
        let reasonCode := "OMS_FLATTEN_NOOP_WRITE_FAILED"
        (s.modifyRecord dispatch.requestKey fun record => { record with reasonCode := reasonCode },
          { status := .uncertain, commandId := command.context.toolCallId,
            reasonCode := reasonCode })
      | (true, s) =>
        (s.modifyRecord dispatch.requestKey fun record => { record with
            status := .accepted, reasonCode := "POSITION_ALREADY_FLAT" },
          { status := .accepted, commandId := command.context.toolCallId,
            reasonCode := "POSITION_ALREADY_FLAT" })

/-- `DispatchAuthoritativeFlattenLocked` from the send attempt until the mutex is released. -/
def sendFlatten (reply : CheckReply) (io : Io) : System × Option ExecutionCommandResult :=
  let context := command.context
  let sendAttempt := flattenEvent (io.clock 1) command plan dispatch .flattenSendAttempt (-1)
    "attempt_recorded" dispatch.snapshotEvidence ""
  match s.appendOrBlock S sendAttempt "OMS_FLATTEN_SEND_ATTEMPT_WRITE_FAILED" (io.file 1) with
  | (false, s) =>
    let (s, result) := s.reject context "OMS_FLATTEN_SEND_ATTEMPT_WRITE_FAILED"
      "flatten broker send was not attempted" (-1) dispatch.requestHash
    (s, some result)
  | (true, s) =>
    let s := s.trackSendAttempt
      ⟨dispatch.requestKey, context.account, context.executionDomain, io.clock 1⟩
    let (allowed, answered) := if S.callbacks.preVenueFlattenCheck then
        reply.eval "pre-venue flatten check threw"
      else (true, "")
    if allowed then
      let s := s.beginRiskMutationDispatch context command.instrument plan.contract
        dispatch.requestKey
      (s.callVenue (.flatten command plan dispatch), none)
    else
      let venueReason := if answered = "" then "IB_PAPER_KILL_SWITCH_STATE_UNCERTAIN"
        else answered
      let (s, result) := s.rejectFlatten S command plan dispatch venueReason
        "pre-venue flatten safety check rejected broker send" (io.clock 2) (io.file 2)
      (s, some result)

/-- `DispatchAuthoritativeFlattenLocked` until the mutex is released. -/
def dispatchFlatten (replies : FlattenReplies) (io : Io) : System × Option ExecutionCommandResult :=
  if plan.expectedPositionQuantity.eq .zero then
    let (s, result) := s.completeFlattenNoop S command plan dispatch replies.noop io
    (s, some result)
  else if !S.callbacks.flattenOrder then
    let (s, result) := s.rejectFlatten S command plan dispatch "IB_FLATTEN_CALLBACK_MISSING"
      "authoritative reduce-only venue callback is not configured" (io.clock 1) (io.file 1)
    (s, some result)
  else s.sendFlatten S command plan dispatch replies.preVenue io

/-- `ExecuteAuthoritativeFlattenLocked` until the mutex is released. -/
def flattenPosition (replies : FlattenReplies) (io : Io) : System × Option ExecutionCommandResult :=
  let dispatch := flattenDispatch S command plan
  match s.flattenAdmission S command plan replies with
  | .refused result => (s, some result)
  | .rejected reasonCode detail =>
    let (s, result) := s.rejectFlatten S command plan dispatch reasonCode detail (io.clock 0)
      (io.file 0)
    (s, some result)
  | .admitted =>
    let intent := flattenEvent (io.clock 0) command plan dispatch .flattenIntent (-1)
      "intent_recorded" dispatch.snapshotEvidence ""
    match s.appendOrBlock S intent "OMS_FLATTEN_INTENT_WRITE_FAILED" (io.file 0) with
    | (false, s) =>
      let (s, result) := s.reject command.context "OMS_FLATTEN_INTENT_WRITE_FAILED"
        "flatten broker send was not attempted" (-1) dispatch.requestHash
      (s, some result)
    | (true, s) =>
      (s.putRecord dispatch.requestKey (pendingFlatten command plan dispatch)).dispatchFlatten S
        command plan dispatch replies io

/-! ### After the venue call -/

def uncertainFlattenOutcome (orderId : Int) (detail : String) (io : Io) :
    System × ExecutionCommandResult :=
  let code := "IB_FLATTEN_OUTCOME_UNCERTAIN"
  let event := flattenEvent (io.clock 0) command plan dispatch .flattenOutcomeUncertain orderId
    "uncertain" detail code
  let (journaled, s) :=
    s.appendOrBlock S event "OMS_FLATTEN_UNCERTAIN_WRITE_FAILED" (io.file 0)
  let reasonCode := if journaled then code else "OMS_FLATTEN_UNCERTAIN_WRITE_FAILED"
  let s := s.modifyRecord dispatch.requestKey fun record => { record with
    status := .uncertain, orderId := orderId, reasonCode := reasonCode, detail := detail }
  (if journaled then s.block recoveryReconcileRequired else s,
    { status := .uncertain, commandId := command.context.toolCallId, orderId := orderId,
      reasonCode := reasonCode, detail := detail })

def completeFlatten (orderId : Int) (projection : CheckReply) (io : Io) :
    System × ExecutionCommandResult :=
  let s := s.setOwner orderId (orderOwner command.context command.instrument plan.order.action
    dispatch.venueCorrelationId)
  let (projectionOk, projectionReason) :=
    if S.callbacks.onIbOrderPlaced then projection.eval "unknown flatten projection exception"
    else (true, "")
  let sent := flattenEvent (io.clock 0) command plan dispatch .flattenSent orderId "submitted"
    dispatch.snapshotEvidence ""
  match s.appendOrBlock S sent "OMS_FLATTEN_RECEIPT_WRITE_FAILED" (io.file 0) with
  | (false, s) =>
    let reasonCode := "OMS_FLATTEN_RECEIPT_WRITE_FAILED"
    (s.modifyRecord dispatch.requestKey fun record => { record with
        status := .uncertain, orderId := orderId, reasonCode := reasonCode },
      { status := .uncertain, commandId := command.context.toolCallId, orderId := orderId,
        reasonCode := reasonCode,
        detail := "flatten broker send may have succeeded; reconciliation required" })
  | (true, s) =>
    if projectionOk then
      (s.modifyRecord dispatch.requestKey fun record => { record with
          status := .accepted, orderId := orderId, reasonCode := "", detail := "" },
        { status := .accepted, commandId := command.context.toolCallId, orderId := orderId })
    else
      let code := "AUTHORITATIVE_FLATTEN_PROJECTION_FAILED"
      let failure := flattenEvent (io.clock 1) command plan dispatch .executionProjectionFailed
        orderId "flatten_projection_failed" projectionReason code
      let (journaled, s) :=
        s.appendOrBlock S failure "OMS_EXECUTION_PROJECTION_FAILURE_WRITE_FAILED" (io.file 1)
      let s := if journaled then s.block code else s
      (s.modifyRecord dispatch.requestKey fun record => { record with
          status := .uncertain, orderId := orderId, reasonCode := code,
          detail := projectionReason },
        { status := .uncertain, commandId := command.context.toolCallId, orderId := orderId,
          reasonCode := code, detail := projectionReason })

/-- `DispatchAuthoritativeFlattenLocked` once the venue call has returned. -/
def settleFlatten (reply : VenueReply VenueFlattenResult) (projection : CheckReply) (io : Io) :
    System × ExecutionCommandResult :=
  let uncertain := fun orderId detail =>
    s.uncertainFlattenOutcome S command plan dispatch orderId detail io
  match reply with
  | .threw what => uncertain (-1) what
  | .threwUnknown => uncertain (-1) "unknown authoritative flatten exception"
  | .returned outcome =>
    match outcome.disposition with
    | .rejectedBeforeSend =>
      match outcome.rejection.code with
      | none => uncertain outcome.orderId "invalid pre-send flatten rejection evidence"
      | some code =>
        if outcome.detail = "" ∨ 0 ≤ outcome.orderId then
          uncertain outcome.orderId "invalid pre-send flatten rejection evidence"
        else s.rejectFlatten S command plan dispatch code outcome.detail (io.clock 0) (io.file 0)
    | .uncertain =>
      uncertain outcome.orderId (if outcome.detail = "" then
        "missing or invalid authoritative flatten outcome" else outcome.detail)
    | .submitted =>
      if outcome.orderId < 0 then
        uncertain outcome.orderId "adapter accepted authoritative flatten without an order id"
      else s.completeFlatten S command plan dispatch outcome.orderId projection io

/-- `DispatchAuthoritativeFlattenLocked` from the return of the venue call on. -/
def flattenReturned (reply : VenueReply VenueFlattenResult) (projection : CheckReply) (io : Io) :
    System × ExecutionCommandResult :=
  ((s.venueReturned (.flatten command plan dispatch)).endRiskMutationDispatch dispatch.requestKey)
    |>.settleFlatten S command plan dispatch reply projection io

end System

end Hepta
