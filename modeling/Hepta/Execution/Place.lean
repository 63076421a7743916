import Hepta.Execution.System

/-!
# Placing an order

`PlaceOrderLocked` up to the point where the mutex is released, and what follows when the
venue call returns (`execution_coordinator.cpp`, `execution_place_order_dispatch.cpp`,
`venue_placement.h`).
-/

namespace Hepta

structure EntrySendAttemptLimit where
  cutoffMs : Int
  maximumAttempts : Nat
deriving DecidableEq, Repr

/-- `SendAttemptTimeIndex::ReadTimes` over the hot index. -/
def Coordinator.placeSendAttemptTimes (c : Coordinator) (account executionDomain : String)
    (cutoffMs : Int) : List Int :=
  (c.placeSendAttempts.filter fun attempt =>
    attempt.account = account ∧ attempt.executionDomain = executionDomain ∧
      cutoffMs < attempt.tsMs).map PlaceSendAttempt.tsMs

def isBuyOrSell (side : String) : Bool := side = "BUY" || side = "SELL"

variable (command : PlaceOrderCommand)

/-- The symbol, side and quantity checks of `PlaceOrderLocked`. -/
def PlaceOrderCommand.wellFormed : Bool :=
  command.contract.symbol ≠ "" && isBuyOrSell command.order.action &&
  command.order.cashQuantity.isFinite && !command.order.cashQuantity.lt .zero &&
  command.order.totalQuantity.isFinite &&
  (if Double.zero.lt command.order.cashQuantity then command.order.totalQuantity.eq .zero
    else !command.order.totalQuantity.le .zero)

/-- The instrument under which a placement is journaled. -/
def PlaceOrderCommand.eventInstrument : String :=
  if command.instrument = "" then command.contract.symbol else command.instrument

/-- The price under which a placement is journaled. -/
def PlaceOrderCommand.eventPrice : Double :=
  if Double.zero.lt command.order.lmtPrice then command.order.lmtPrice
  else command.referencePrice

/-- What the outside world answers while a placement is admitted and prepared. -/
structure PlaceReplies where
  nowMs : Int := 0
  leaseValid : Bool := true
  leaseReason : String := ""
  capacityReason : Option String := none
  preVenue : CheckReply := .returned true ""

/-- `VenuePlacement::Dispatch`, after the adapter has answered. -/
def normalizePlaceResult (S : Service) (result : VenuePlaceResult) : VenuePlaceResult :=
  match result.disposition with
  | .submitted | .reserved =>
    if result.orderId < 0 then
      { detail := "venue accepted without an order id", orderId := result.orderId }
    else if (result.disposition = .reserved) ≠ (S.requiresActivation = true) then
      { detail := "venue placement mode mismatch", orderId := result.orderId }
    else result
  | .rejected =>
    if result.detail ≠ "" ∧ result.rejection.code.isSome then result
    else { detail := "venue rejected without a reliable rejection reason",
           orderId := result.orderId }
  | .uncertain =>
    if result.detail = "" then { result with detail := "venue outcome uncertain" } else result

/-- A venue call returns a result or throws. -/
inductive VenueReply (α : Type)
  | returned (result : α)
  | threw (what : String)
  | threwUnknown
deriving DecidableEq, Repr

def placeOutcome (S : Service) : VenueReply VenuePlaceResult → VenuePlaceResult
  | .returned result => normalizePlaceResult S result
  | .threw what      => { detail := what }
  | .threwUnknown    => { detail := "unknown venue place exception" }

namespace System

variable (S : Service) (s : System) (command : PlaceOrderCommand)

/-- The checks of `PlaceOrderLocked` before anything is written, in their order. -/
def placeRefusal (limit : Option EntrySendAttemptLimit) (replies : PlaceReplies) :
    Option ExecutionCommandResult :=
  let context := command.context
  let requestHash := placeRequestHash S command
  let check := fun (refused : Prop) [Decidable refused] reasonCode detail =>
    if refused then some (refuseBeforeIntent context reasonCode detail) else none
  firstRefusal
    [check (context.identified = false)
        "INVALID_AGENT_CONTEXT" "agent_id, session_id and tool_call_id are required",
      check (requestHash = "") "REQUEST_HASH_FAILED" "canonical request hashing failed",
      (s.requests.lookup context.requestKey).map (s.existingResult context requestHash),
      check (context.account ∈ s.accountNewEntryFences)
        "ACCOUNT_NEW_ENTRY_FENCED" "native account owner disabled new risk across all sessions",
      check (ownerKey context.agentId context.sessionId ∈ s.fencedSessionOwners)
        "SESSION_OWNER_FENCED" "revoked or expired session owner cannot mutate",
      check (ownerKey context.agentId context.sessionId ∈ s.recoveryOnlySessionOwners)
        "SESSION_RECOVERY_ONLY" "root custodian disabled new entry for this session owner",
      check (s.mutationBlocked = true) "MUTATION_BLOCKED" s.mutationBlockReason,
      check (s.riskMutationDispatches ≠ ∅)
        "MUTATION_BLOCKED" "another risk mutation is already at the venue boundary",
      check (limit.any fun limit => limit.maximumAttempts ≤ (s.placeSendAttemptTimes
          context.account context.executionDomain limit.cutoffMs).length)
        "IB_PAPER_ORDER_RATE_EXCEEDED"
        "authoritative send-attempt budget is exhausted or unavailable",
      check (S.callbacks.placement = .disabled)
        "IB_PLACE_CALLBACK_MISSING" "IB place callback is not configured",
      check (0 < command.expiresAtMs ∧ command.expiresAtMs < replies.nowMs)
        "TOOL_CALL_EXPIRED" "order command expired before execution",
      check (command.wellFormed = false)
        "INVALID_ORDER" "symbol, BUY/SELL action and positive quantity are required",
      check (context.executionDomain ≠ "" ∧ (context.decisionLeaseFencingToken = 0 ∨
          context.decisionLeaseGeneration = 0 ∨ S.callbacks.validateDecisionLease = false))
        "DECISION_LEASE_REQUIRED" "Agent mutation lacks a server-validated lease",
      check (context.executionDomain ≠ "" ∧ replies.leaseValid = false)
        "DECISION_LEASE_INVALID" replies.leaseReason,
      -- a poisoned writer keeps the hard failure of the append below
      if s.journal.writePoisoned then none else replies.capacityReason.map fun capacityReason =>
        refuseBeforeIntent context capacityReason ("new entry paused before intent/send; " ++
          "preserve history, use guarded exits and measured recovery maintenance")]

/-- The context that a placement carries to and from the venue. -/
def placeDispatch (sendAttemptTsMs : Int) : PlaceOrderDispatchContext :=
  let requestHash := placeRequestHash S command
  { requestKey := command.context.requestKey
    requestHash := requestHash
    venueCorrelationId := venueCorrelationId S command.context requestHash
    instrument := command.eventInstrument
    eventPrice := command.eventPrice
    sendAttemptTsMs := sendAttemptTsMs }

def placeEvent (tsMs : Int) (command : PlaceOrderCommand) (dispatch : PlaceOrderDispatchContext)
    (eventType : EventType) (orderId : Int) (status reason riskCode : String) : OmsJournalEvent :=
  buildEvent tsMs command.context eventType orderId dispatch.instrument command.order.action
    command.order.totalQuantity dispatch.eventPrice status reason riskCode dispatch.requestHash
    dispatch.venueCorrelationId

variable (dispatch : PlaceOrderDispatchContext)

/-- The record of a placement whose venue result is awaited. -/
def pendingPlace : RequestRecord where
  status := .uncertain
  reasonCode := brokerResultPending
  requestHash := dispatch.requestHash
  venueCorrelationId := dispatch.venueCorrelationId
  operation := .place
  context := command.context
  instrument := dispatch.instrument
  side := command.order.action
  quantity := command.order.totalQuantity
  price := dispatch.eventPrice
  durableMutationIntent := true

/-- `PreVenuePlaceAllowedLocked`: `none` lets the dispatch go on. -/
def preVenuePlace (reply : CheckReply) (io : Io) : Option (System × ExecutionCommandResult) :=
  if !S.callbacks.preVenuePlaceCheck then none
  else
    let (allowed, answered) := reply.eval "pre-venue place check threw"
    if allowed then none
    else
      let reason := if answered = "" then "IB_PAPER_KILL_SWITCH_STATE_UNCERTAIN" else answered
      let detail := "pre-venue risk-increase check rejected broker send"
      let event := placeEvent (io.clock 2) command dispatch .reject (-1) "rejected" detail reason
      let (_, s) := s.appendOrBlock S event "OMS_REJECT_WRITE_FAILED" (io.file 2)
      some (s.reject command.context reason detail (-1) dispatch.requestHash)

/-- `DispatchPlaceOrderLocked` until the mutex is released; `none` means that the answer
comes with the venue's. -/
def dispatchPlace (reply : CheckReply) (io : Io) : System × Option ExecutionCommandResult :=
  let s := s.trackSendAttempt ⟨dispatch.requestKey, command.context.account,
    command.context.executionDomain, dispatch.sendAttemptTsMs⟩
  match s.preVenuePlace S command dispatch reply io with
  | some (s, rejection) => (s, some rejection)
  | none =>
    let s := s.beginRiskMutationDispatch command.context dispatch.instrument command.contract
      dispatch.requestKey
    (s.callVenue (.place command dispatch), none)

/-- `PlaceOrderLocked` until the mutex is released. -/
def placeOrder (limit : Option EntrySendAttemptLimit) (replies : PlaceReplies) (io : Io) :
    System × Option ExecutionCommandResult :=
  match s.placeRefusal S command limit replies with
  | some refusal => (s, some refusal)
  | none =>
    let dispatch := placeDispatch S command (io.clock 1)
    let intent := placeEvent (io.clock 0) command dispatch .orderIntent (-1) "intent_recorded" "" ""
    let sendAttempt :=
      placeEvent (io.clock 1) command dispatch .placeSendAttempt (-1) "attempt_recorded" "" ""
    match s.journal.appendDurablePair S.config intent sendAttempt (io.file 0) (io.file 1) with
    | (.committed, journal) =>
      ((s.setJournal journal).putRecord dispatch.requestKey (pendingPlace command dispatch))
        |>.dispatchPlace S command dispatch replies.preVenue io
    | (failed, journal) =>
      let failure := if failed = .firstFailed then "OMS_INTENT_WRITE_FAILED"
        else "OMS_PLACE_SEND_ATTEMPT_WRITE_FAILED"
      let (s, result) := ((s.setJournal journal).block failure).reject command.context failure
        "broker send was not attempted" (-1) dispatch.requestHash
      (s, some result)

/-! ### After the venue call -/

def uncertainPlaceOutcome (orderId : Int) (detail : String) (tsMs : Int) (file : AppendIo) :
    System × ExecutionCommandResult :=
  let code := "IB_PLACE_OUTCOME_UNCERTAIN"
  let event := placeEvent tsMs command dispatch .placeOutcomeUncertain orderId "uncertain" detail
    code
  let (journaled, s) := s.appendOrBlock S event "OMS_PLACE_UNCERTAIN_WRITE_FAILED" file
  let reasonCode := if journaled then code else "OMS_PLACE_UNCERTAIN_WRITE_FAILED"
  let s := s.modifyRecord dispatch.requestKey fun record => { record with
    status := .uncertain, orderId := orderId, reasonCode := reasonCode, detail := detail }
  (if journaled then s.block recoveryReconcileRequired else s,
    { status := .uncertain, commandId := command.context.toolCallId, orderId := orderId,
      reasonCode := reasonCode, detail := detail })

/-- What the projection and the activation callbacks answer. -/
structure PlaceCompletion where
  projection : CheckReply := .returned true ""
  activation : CheckReply := .returned true ""

/-- The last part of `CompletePlaceOrderLocked`: an order that the venue only reserved is
activated, and the command is accepted. -/
def activatePlace (orderId : Int) (activation : CheckReply) (io : Io) :
    System × ExecutionCommandResult :=
  let accept := fun (s : System) =>
    (s.modifyRecord dispatch.requestKey fun record => { record with
        status := .accepted, orderId := orderId, reasonCode := "", detail := "" },
      ({ status := .accepted, commandId := command.context.toolCallId,
         orderId := orderId } : ExecutionCommandResult))
  if !S.requiresActivation then accept s
  else
    let (activated, activationReason) := activation.eval "unknown venue activation exception"
    if !activated then
      s.uncertainPlaceOutcome S command dispatch orderId
        (if activationReason = "" then "venue activation failed" else activationReason)
        (io.clock 1) (io.file 1)
    else
      let receipt := placeEvent (io.clock 1) command dispatch .placeActivated orderId "submitted"
        "" ""
      match s.appendOrBlock S receipt "OMS_PLACE_ACTIVATION_RECEIPT_WRITE_FAILED" (io.file 1) with
      | (true, s) => accept s
      | (false, s) =>
        s.uncertainPlaceOutcome S command dispatch orderId
          "venue activated without a durable activation receipt" (io.clock 2) (io.file 2)

/-- The part of `CompletePlaceOrderLocked` that follows a failed projection of an order that
needs no activation. -/
def placeProjectionFailure (orderId : Int) (projectionReason : String) (tsMs : Int)
    (file : AppendIo) : System × ExecutionCommandResult :=
  let code := "AUTHORITATIVE_ORDER_PROJECTION_FAILED"
  let failure := placeEvent tsMs command dispatch .executionProjectionFailed orderId
    "place_projection_failed" projectionReason code
  let (journaled, s) :=
    s.appendOrBlock S failure "OMS_EXECUTION_PROJECTION_FAILURE_WRITE_FAILED" file
  let s := if journaled then s.block code else s
  (s.modifyRecord dispatch.requestKey fun record => { record with
      status := .uncertain, orderId := orderId, reasonCode := code, detail := projectionReason },
    { status := .uncertain, commandId := command.context.toolCallId, orderId := orderId,
      reasonCode := code, detail := projectionReason })

/-- The owner that a receipt of the placement records. -/
def placeOwner : ExecutionOrderOwner :=
  orderOwner command.context dispatch.instrument command.order.action dispatch.venueCorrelationId

def placeReceipt (tsMs : Int) (command : PlaceOrderCommand) (dispatch : PlaceOrderDispatchContext)
    (orderId : Int) : OmsJournalEvent :=
  placeEvent tsMs command dispatch .placeSent orderId
    (if S.requiresActivation then "activation_pending" else "submitted") "" ""

def completePlaceOrder (orderId : Int) (completion : PlaceCompletion) (io : Io) :
    System × ExecutionCommandResult :=
  let s := s.setOwner orderId (placeOwner command dispatch)
  let (projectionOk, projectionReason) :=
    if S.callbacks.onIbOrderPlaced then
      completion.projection.eval "unknown order projection exception"
    else (true, "")
  let sent := placeReceipt S (io.clock 0) command dispatch orderId
  match s.appendOrBlock S sent "OMS_PLACE_RECEIPT_WRITE_FAILED" (io.file 0) with
  | (false, s) =>
    let reasonCode := "OMS_PLACE_RECEIPT_WRITE_FAILED"
    (s.modifyRecord dispatch.requestKey fun record => { record with
        status := .uncertain, orderId := orderId, reasonCode := reasonCode },
      { status := .uncertain, commandId := command.context.toolCallId, orderId := orderId,
        reasonCode := reasonCode,
        detail := "broker send may have succeeded; reconciliation required" })
  | (true, s) =>
    if projectionOk then s.activatePlace S command dispatch orderId completion.activation io
    else if S.requiresActivation then
      s.uncertainPlaceOutcome S command dispatch orderId
        ("reserved order projection failed before activation: " ++ projectionReason)
        (io.clock 1) (io.file 1)
    else s.placeProjectionFailure S command dispatch orderId projectionReason (io.clock 1) (io.file 1)

/-- `DispatchPlaceOrderLocked` once the outcome of the venue call is known. -/
def settlePlace (outcome : VenuePlaceResult) (completion : PlaceCompletion) (io : Io) :
    System × ExecutionCommandResult :=
  let uncertain := fun detail =>
    s.uncertainPlaceOutcome S command dispatch outcome.orderId detail (io.clock 0) (io.file 0)
  match outcome.disposition with
  | .uncertain => uncertain outcome.detail
  | .rejected =>
    match outcome.rejection.code with
    | none => uncertain "adapter returned an invalid rejection classification"
    | some rejectCode =>
      let event := placeEvent (io.clock 0) command dispatch .reject outcome.orderId "rejected"
        outcome.detail rejectCode
      let (_, s) := s.appendOrBlock S event "OMS_REJECT_WRITE_FAILED" (io.file 0)
      s.reject command.context rejectCode outcome.detail outcome.orderId dispatch.requestHash
  | .submitted | .reserved =>
    if outcome.orderId < 0 then uncertain "adapter accepted place without an order id"
    else s.completePlaceOrder S command dispatch outcome.orderId completion io

/-- `DispatchPlaceOrderLocked` from the return of the venue call on. -/
def placeReturned (reply : VenueReply VenuePlaceResult) (completion : PlaceCompletion) (io : Io) :
    System × ExecutionCommandResult :=
  ((s.venueReturned (.place command dispatch)).endRiskMutationDispatch dispatch.requestKey)
    |>.settlePlace S command dispatch (placeOutcome S reply) completion io

end System

end Hepta
