import Hepta.Execution.Place

/-!
# Cancelling an order

`CancelOrderLocked`, which releases the mutex twice: around the eligibility read of the
venue adapter, before anything is durable, and around the cancel itself
(`execution_coordinator_cancel.cpp`).
-/

namespace Hepta

/-- The characters of a text that fit in its first `n` bytes. -/
def takeBytes : Nat → List Char → List Char
  | _, []      => []
  | n, c :: cs => if c.utf8Size ≤ n then c :: takeBytes (n - c.utf8Size) cs else []

def uncertainCancelDetail (detail : String) : String :=
  if detail = "" then "cancel may have reached venue; reconciliation required"
  else String.ofList (takeBytes 1024 detail.toList)

/-- The flag and reason that the eligibility read leaves behind. -/
def cancelEligibility : CheckReply → Bool × String
  | .returned allowed reason => (allowed, reason)
  | .threw _ | .threwUnknown => (false, "IB_CANCEL_PREFLIGHT_FAILED")

/-- `TryCancelAtVenueUnlocked`: an exception is an uncertain outcome without a detail. -/
def cancelOutcome : VenueReply VenueCancelResult → VenueCancelResult
  | .returned result         => result
  | .threw _ | .threwUnknown => {}

namespace System

variable (S : Service) (s : System) (command : CancelOrderCommand)

/-- The order is not the caller's to cancel. -/
def cancelOwnerRefusal : Option ExecutionCommandResult :=
  let context := command.context
  if context.allowCancelAny then none
  else match s.orderOwners.lookup command.orderId with
    | none => some (refuseBeforeIntent context "ORDER_OWNER_UNKNOWN"
        "order is not owned by this coordinator" command.orderId)
    | some owner =>
      if owner.agentId ≠ context.agentId ∨ owner.sessionId ≠ context.sessionId ∨
          owner.account ≠ context.account ∨ owner.executionDomain ≠ context.executionDomain then
        some (refuseBeforeIntent context "ORDER_OWNER_MISMATCH"
          "agent cannot cancel another agent's order" command.orderId)
      else none

/-- The checks that a cancel makes under the mutex, and makes again after the eligibility
read. -/
def cancelRecheck : Option ExecutionCommandResult :=
  let context := command.context
  let check := fun (refused : Prop) [Decidable refused] reasonCode detail =>
    if refused then some (refuseBeforeIntent context reasonCode detail command.orderId) else none
  firstRefusal
    [(s.requests.lookup context.requestKey).map
        (s.existingResult context (cancelRequestHash S command)),
      check (ownerKey context.agentId context.sessionId ∈ s.fencedSessionOwners)
        "SESSION_OWNER_FENCED" "revoked or expired session owner cannot mutate",
      check (s.mutationBlocked = true ∧ s.mutationBlockReason ≠ recoveryReconcileRequired)
        "MUTATION_BLOCKED" s.mutationBlockReason,
      check (command.orderId < 0 ∨ S.callbacks.cancelOrder = false)
        "INVALID_CANCEL" "valid order_id and cancel callback are required",
      s.cancelOwnerRefusal command]

/-- The checks of `CancelOrderLocked` before the eligibility read. -/
def cancelRefusal : Option ExecutionCommandResult :=
  let context := command.context
  let check := fun (refused : Prop) [Decidable refused] reasonCode detail =>
    if refused then some (refuseBeforeIntent context reasonCode detail command.orderId) else none
  firstRefusal
    [check (context.identified = false)
        "INVALID_AGENT_CONTEXT" "agent_id, session_id and tool_call_id are required",
      check (cancelRequestHash S command = "")
        "REQUEST_HASH_FAILED" "canonical request hashing failed",
      s.cancelRecheck S command]

def cancelDispatch : CancelDispatchContext :=
  let owner := s.orderOwners.lookup command.orderId
  { requestKey := command.context.requestKey
    requestHash := cancelRequestHash S command
    targetCorrelation := (owner.map ExecutionOrderOwner.venueCorrelationId).getD ""
    instrument := if command.instrument ≠ "" then command.instrument
      else (owner.map ExecutionOrderOwner.instrument).getD ""
    side := if command.side ≠ "" then command.side
      else (owner.map ExecutionOrderOwner.side).getD "" }

def cancelEvent (tsMs : Int) (command : CancelOrderCommand) (dispatch : CancelDispatchContext)
    (eventType : EventType) (status reason riskCode : String) : OmsJournalEvent :=
  buildEvent tsMs command.context eventType command.orderId dispatch.instrument dispatch.side
    .zero .zero status reason riskCode dispatch.requestHash dispatch.targetCorrelation

variable (dispatch : CancelDispatchContext)

def cancelRecord (status : ExecutionCommandStatus) (reasonCode detail : String) :
    RequestRecord where
  status := status
  orderId := command.orderId
  reasonCode := reasonCode
  detail := detail
  requestHash := dispatch.requestHash
  venueCorrelationId := dispatch.targetCorrelation
  operation := .cancel
  context := command.context
  instrument := dispatch.instrument
  side := dispatch.side
  durableMutationIntent := true

def pendingCancel : RequestRecord :=
  cancelRecord command dispatch .uncertain brokerResultPending ""

/-- `CancelOrderLocked` from the cancel intent until the mutex is released. -/
def sendCancel (io : Io) : System × Option ExecutionCommandResult :=
  let context := command.context
  let dispatch := s.cancelDispatch S command
  let intent := cancelEvent (io.clock 0) command dispatch .cancel "intent_recorded" "" ""
  match s.appendOrBlock S intent "OMS_CANCEL_INTENT_WRITE_FAILED" (io.file 0) with
  | (false, s) =>
    let (s, result) := s.reject context "OMS_CANCEL_INTENT_WRITE_FAILED" "cancel was not sent"
      command.orderId dispatch.requestHash
    (s, some result)
  | (true, s) =>
    let s := s.putRecord dispatch.requestKey (pendingCancel command dispatch)
    let sendAttempt :=
      cancelEvent (io.clock 1) command dispatch .cancelSendAttempt "attempt_recorded" "" ""
    match s.appendOrBlock S sendAttempt "OMS_CANCEL_SEND_ATTEMPT_WRITE_FAILED" (io.file 1) with
    | (false, s) =>
      let (s, result) := s.reject context "OMS_CANCEL_SEND_ATTEMPT_WRITE_FAILED"
        "cancel was not sent" command.orderId dispatch.requestHash
      (s, some result)
    | (true, s) => (s.callVenue (.cancel command dispatch), none)

/-- `CancelOrderLocked` until the mutex is first released. -/
def cancelOrder (io : Io) : System × Option ExecutionCommandResult :=
  match s.cancelRefusal S command with
  | some refusal => (s, some refusal)
  | none =>
    if !S.callbacks.canCancelIbOrder then s.sendCancel S command io
    else if command.orderId ∈ s.cancelPreflightsInFlight then
      (s, some (refuseBeforeIntent command.context "CANCEL_PREFLIGHT_IN_FLIGHT"
        "another cancel eligibility check is already in flight" command.orderId))
    else
      ({ s with
        cancelPreflightsInFlight := insert command.orderId s.cancelPreflightsInFlight
        preflights := command :: s.preflights }, none)

/-- `CancelOrderLocked` from the return of the eligibility read on. -/
def cancelPreflightReturned (reply : CheckReply) (io : Io) :
    System × Option ExecutionCommandResult :=
  let s := { s with
    cancelPreflightsInFlight := s.cancelPreflightsInFlight.erase command.orderId
    preflights := s.preflights.erase command }
  let (cancelAllowed, suppressReason) := cancelEligibility reply
  match s.cancelRecheck S command with
  | some refusal => (s, some refusal)
  | none =>
    -- an order the broker has not acknowledged yet may be cancelled
    if !cancelAllowed ∧ suppressReason ≠ "NO_BROKER_ACK" then
      (s, some (refuseBeforeIntent command.context "IB_CANCEL_SUPPRESSED"
        (if suppressReason = "" then "IB_CANCEL_PREFLIGHT_FAILED" else suppressReason)
        command.orderId))
    else s.sendCancel S command io

/-! ### After the venue call -/

def uncertainCancelResult (reasonCode detail : String) : ExecutionCommandResult :=
  { status := .uncertain, commandId := command.context.toolCallId, orderId := command.orderId,
    reasonCode := reasonCode, detail := detail }

/-- `HandleDeferredCancelLocked`. -/
def deferredCancel (io : Io) : System × ExecutionCommandResult :=
  let reason := "IB_CANCEL_DEFERRED_UNTIL_BROKER_ACK"
  let event := cancelEvent (io.clock 0) command dispatch .cancel "cancel_pending"
    "waiting for broker order acknowledgement" reason
  let (journaled, s) :=
    s.appendOrBlock S event "OMS_CANCEL_PENDING_RECEIPT_WRITE_FAILED" (io.file 0)
  let reasonCode := if journaled then reason else "OMS_CANCEL_PENDING_RECEIPT_WRITE_FAILED"
  let detail := if journaled then
      "cancel intent queued; broker API cancel will dispatch after Submitted/OpenOrder"
    else "cancel intent was queued but its pending receipt could not be persisted; " ++
      "reconcile required"
  (s.putRecord dispatch.requestKey (cancelRecord command dispatch .uncertain reasonCode detail),
    uncertainCancelResult command reasonCode detail)

/-- `UncertainCancelOutcomeLocked`: admission is closed before the record is written. -/
def uncertainCancelOutcome (detail : String) (io : Io) : System × ExecutionCommandResult :=
  let kept := uncertainCancelDetail detail
  let s := (s.block recoveryReconcileRequired).modifyRecord dispatch.requestKey fun record =>
    { record with status := .uncertain, reasonCode := recoveryReconcileRequired, detail := kept }
  let event := cancelEvent (io.clock 0) command dispatch .cancel "cancel_pending" kept
    recoveryReconcileRequired
  match s.appendOrBlock S event "OMS_CANCEL_UNCERTAIN_WRITE_FAILED" (io.file 0) with
  | (true, s) => (s, uncertainCancelResult command recoveryReconcileRequired kept)
  | (false, s) =>
    let reasonCode := "OMS_CANCEL_UNCERTAIN_WRITE_FAILED"
    (s.modifyRecord dispatch.requestKey fun record => { record with reasonCode := reasonCode },
      uncertainCancelResult command reasonCode kept)

/-- `HandleCancelProjectionFailureLocked`. -/
def cancelProjectionFailure (projectionReason : String) (io : Io) :
    System × ExecutionCommandResult :=
  let failureCode := "AUTHORITATIVE_CANCEL_PROJECTION_FAILED"
  let event := cancelEvent (io.clock 1) command dispatch .executionProjectionFailed
    "cancel_projection_failed" projectionReason failureCode
  let (journaled, s) :=
    s.appendOrBlock S event "OMS_EXECUTION_PROJECTION_FAILURE_WRITE_FAILED" (io.file 1)
  let s := if journaled then s.block failureCode else s
  (s.putRecord dispatch.requestKey
      (cancelRecord command dispatch .uncertain failureCode projectionReason),
    uncertainCancelResult command failureCode projectionReason)

/-- `CancelOrderLocked` from the acknowledged send on. -/
def completeCancel (projection : CheckReply) (io : Io) : System × ExecutionCommandResult :=
  let sent := cancelEvent (io.clock 0) command dispatch .cancel "cancel_sent" "" ""
  match s.appendOrBlock S sent "OMS_CANCEL_RECEIPT_WRITE_FAILED" (io.file 0) with
  | (false, s) =>
    let reasonCode := "OMS_CANCEL_RECEIPT_WRITE_FAILED"
    (s.putRecord dispatch.requestKey (cancelRecord command dispatch .uncertain reasonCode ""),
      uncertainCancelResult command reasonCode
        "cancel may have reached broker; reconciliation required")
  | (true, s) =>
    let (projectionOk, projectionReason) :=
      if S.callbacks.onIbCancelSent then projection.eval "unknown cancel projection exception"
      else (true, "")
    if projectionOk then
      (s.putRecord dispatch.requestKey (cancelRecord command dispatch .accepted "" ""),
        { status := .accepted, commandId := command.context.toolCallId,
          orderId := command.orderId })
    else s.cancelProjectionFailure S command dispatch projectionReason io

/-- `CancelOrderLocked` once the outcome of the venue call is known. -/
def settleCancel (outcome : VenueCancelResult) (projection : CheckReply) (io : Io) :
    System × ExecutionCommandResult :=
  match outcome.disposition with
  | .deferred => s.deferredCancel S command dispatch io
  | .rejectedBeforeSend =>
    if outcome.detail = "" then s.uncertainCancelOutcome S command dispatch outcome.detail io
    else
      let event := cancelEvent (io.clock 0) command dispatch .reject "rejected" outcome.detail
        "IB_CANCEL_REJECT"
      let (_, s) := s.appendOrBlock S event "OMS_CANCEL_REJECT_WRITE_FAILED" (io.file 0)
      s.reject command.context "IB_CANCEL_REJECT" outcome.detail command.orderId
        dispatch.requestHash
  | .uncertain => s.uncertainCancelOutcome S command dispatch outcome.detail io
  | .submitted => s.completeCancel S command dispatch projection io

/-- `CancelOrderLocked` from the return of the venue call on. -/
def cancelReturned (reply : VenueReply VenueCancelResult) (projection : CheckReply) (io : Io) :
    System × ExecutionCommandResult :=
  (s.venueReturned (.cancel command dispatch)).settleCancel S command dispatch
    (cancelOutcome reply) projection io

end System

end Hepta
