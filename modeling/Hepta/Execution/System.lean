import Hepta.Execution.Coordinator

/-!
# The running service

The coordinator's memory together with its journal, the calls that threads are making with the
coordinator mutex released, and a history of the venue calls. The operations of the following
modules act on this state; each runs from one acquisition of the mutex to its release, and what the
outside world answers is an argument.
-/

namespace Hepta

structure PlaceOrderDispatchContext where
  requestKey : String
  requestHash : String
  venueCorrelationId : String
  instrument : String
  eventPrice : Double
  sendAttemptTsMs : Int
deriving DecidableEq, Repr

structure AuthoritativeFlattenDispatchContext where
  requestKey : String
  requestHash : String
  venueCorrelationId : String
  snapshotEvidence : String
deriving DecidableEq, Repr

/-- What `CancelOrderLocked` keeps on its stack across the venue call. -/
structure CancelDispatchContext where
  requestKey : String
  requestHash : String
  targetCorrelation : String
  instrument : String
  side : String
deriving DecidableEq, Repr

/-- A thread that waits for a venue call with the mutex released. -/
inductive Dispatch
  | place (command : PlaceOrderCommand) (dispatch : PlaceOrderDispatchContext)
  | cancel (command : CancelOrderCommand) (dispatch : CancelDispatchContext)
  | flatten (command : FlattenPositionCommand) (plan : AuthoritativeFlattenPlan)
      (dispatch : AuthoritativeFlattenDispatchContext)
deriving DecidableEq, Repr

namespace Dispatch

def requestKey : Dispatch → String
  | .place _ dispatch     => dispatch.requestKey
  | .cancel _ dispatch    => dispatch.requestKey
  | .flatten _ _ dispatch => dispatch.requestKey

def context : Dispatch → AgentExecutionContext
  | .place command _     => command.context
  | .cancel command _    => command.context
  | .flatten command _ _ => command.context

/-- The record that must be in the journal before this call. -/
def sendAttempt : Dispatch → EventType
  | .place ..   => .placeSendAttempt
  | .cancel ..  => .cancelSendAttempt
  | .flatten .. => .flattenSendAttempt

/-- The scope that a placement or a flatten reserves for its venue call. -/
def riskScope : Dispatch → Option RiskMutationDispatchScope
  | .place command dispatch =>
    some ⟨ownerKey command.context.agentId command.context.sessionId, command.context.account,
      command.context.executionDomain, dispatch.instrument, command.contract.symbol⟩
  | .cancel .. => none
  | .flatten command plan _ =>
    some ⟨ownerKey command.context.agentId command.context.sessionId, command.context.account,
      command.context.executionDomain, command.instrument, plan.contract.symbol⟩

end Dispatch

/-- One call of `placement.Dispatch`, `cancelOrder` or `flattenOrder`, with the records that
were synced when it was made. -/
structure VenueCall where
  dispatch : Dispatch
  syncedBefore : List OmsJournalEvent
deriving DecidableEq

/-- A fence operation that reported success. -/
inductive FenceAcknowledgement
  | account (account : String)
  | recoveryOnly (agentId sessionId : String) (ingressFence : UInt64)
  | paperTerminal
deriving DecidableEq, Repr

structure System extends Coordinator where
  journal : OmsJournal := {}
  dispatches : List Dispatch := []
  /-- Cancels whose eligibility is being read with the mutex released. -/
  preflights : List CancelOrderCommand := []
  venueCalls : List VenueCall := []
  acknowledged : List FenceAcknowledgement := []
deriving DecidableEq

/-- The clock readings and the file-system behaviour during one operation, numbered in the
order in which the operation writes its records. -/
structure Io where
  clock : Nat → Int := fun _ => 0
  file : Nat → AppendIo := fun _ => {}

/-- Every append of the operation goes through. -/
def Io.clean (io : Io) : Prop := ∀ n, (io.file n).clean

/-- The answer of a callback that returns a flag and a reason, or throws. -/
inductive CheckReply
  | returned (ok : Bool) (reason : String)
  | threw (what : String)
  | threwUnknown
deriving DecidableEq, Repr

/-- The flag and the reason that the caller's `try` block leaves behind. -/
def CheckReply.eval (unknown : String) : CheckReply → Bool × String
  | .returned ok reason => (ok, reason)
  | .threw what         => (false, what)
  | .threwUnknown       => (false, unknown)

/-- What a control operation reports: success, the reason it leaves behind, and a count where
it has one. -/
structure ControlResult where
  ok : Bool
  reason : String := ""
  count : Nat := 0
deriving DecidableEq, Repr

namespace System

variable (S : Service)

/-! ### Elementary updates -/

def block (s : System) (reason : String) : System :=
  { s with mutationBlocked := true, mutationBlockReason := reason }

def unblock (s : System) : System :=
  { s with mutationBlocked := false, mutationBlockReason := "" }

def putRecord (s : System) (key : String) (record : RequestRecord) : System :=
  { s with requests := s.requests.insert key record }

/-- Updates through the reference that `UpsertPromoted` returns. -/
def modifyRecord (s : System) (key : String) (f : RequestRecord → RequestRecord) : System :=
  s.putRecord key (f ((s.requests.lookup key).getD {}))

def setOwner (s : System) (orderId : Int) (owner : ExecutionOrderOwner) : System :=
  { s with orderOwners := s.orderOwners.insert orderId owner }

def eraseOwner (s : System) (orderId : Int) : System :=
  { s with orderOwners := s.orderOwners.erase orderId }

def setJournal (s : System) (journal : OmsJournal) : System := { s with journal := journal }

def appendOrBlock (s : System) (event : OmsJournalEvent) (failureCode : String) (io : AppendIo) :
    Bool × System :=
  match s.journal.append S.config event io with
  | (true, journal)  => (true, s.setJournal journal)
  | (false, journal) => (false, (s.setJournal journal).block failureCode)

/-! ### Answers without an effect -/

def duplicateResult (s : System) (context : AgentExecutionContext) : ExecutionCommandResult :=
  match s.requests.lookup context.requestKey with
  | none => { commandId := context.toolCallId }
  | some record =>
    if record.status = .uncertain then
      { status := .uncertain, commandId := context.toolCallId, orderId := record.orderId,
        reasonCode := record.reasonCode, detail := record.detail }
    else
      { status := .duplicate, commandId := context.toolCallId, orderId := record.orderId,
        reasonCode := "DUPLICATE_TOOL_CALL",
        detail := "previous_status=" ++ record.status.name }

def refuseBeforeIntent (context : AgentExecutionContext) (reasonCode detail : String)
    (orderId : Int := -1) : ExecutionCommandResult :=
  { status := .rejected, commandId := context.toolCallId, orderId := orderId,
    reasonCode := reasonCode, detail := detail }

def idempotencyConflict (context : AgentExecutionContext) (orderId : Int) :
    ExecutionCommandResult :=
  { status := .rejected, commandId := context.toolCallId, orderId := orderId,
    reasonCode := "IDEMPOTENCY_KEY_CONFLICT",
    detail := "tool_call_id was already used for a different execution operation or payload" }

/-- The answer of the first check that refuses; `none` lets the command through. -/
def firstRefusal (checks : List (Option ExecutionCommandResult)) : Option ExecutionCommandResult :=
  checks.findSome? id

lemma firstRefusal_eq_none {checks : List (Option ExecutionCommandResult)} :
    firstRefusal checks = none ↔ ∀ check ∈ checks, check = none := by
  simp [firstRefusal, List.findSome?_eq_none_iff]

/-- The answer to a command whose identity is already known. -/
def existingResult (s : System) (context : AgentExecutionContext) (requestHash : String)
    (existing : RequestRecord) : ExecutionCommandResult :=
  if existing.requestHash ≠ "" ∧ existing.requestHash ≠ requestHash then
    idempotencyConflict context existing.orderId
  else s.duplicateResult context

/-! ### Rejection and dispatch bookkeeping -/

/-- The record that `RejectLocked` stores. -/
def rejectedRecord (s : System) (context : AgentExecutionContext) (reasonCode detail : String)
    (orderId : Int) (requestHash : String) : RequestRecord :=
  let base : RequestRecord := match s.requests.lookup context.requestKey with
    | some existing =>
      if requestHash = "" ∨ existing.requestHash = "" ∨ existing.requestHash = requestHash then
        existing
      else {}
    | none => {}
  { base with
    status := .rejected
    orderId := orderId
    reasonCode := reasonCode
    detail := detail
    requestHash := if requestHash = "" then base.requestHash else requestHash
    context := if base.context.agentId = "" then context else base.context }

def reject (s : System) (context : AgentExecutionContext) (reasonCode detail : String)
    (orderId : Int) (requestHash : String) : System × ExecutionCommandResult :=
  let result := refuseBeforeIntent context reasonCode detail orderId
  if context.toolCallId = "" then (s, result)
  else
    (s.putRecord context.requestKey
      (s.rejectedRecord context reasonCode detail orderId requestHash), result)

/-- The first send of a request key enters the send-attempt index. -/
def trackSendAttempt (s : System) (attempt : PlaceSendAttempt) : System :=
  if attempt.requestKey ∈ s.placeSendAttemptKeys then s
  else { s with
    placeSendAttemptKeys := insert attempt.requestKey s.placeSendAttemptKeys
    placeSendAttempts := s.placeSendAttempts ++ [attempt] }

/-- `BeginRiskMutationDispatchLocked`; `emplace` keeps an entry that is already there. -/
def beginRiskMutationDispatch (s : System) (context : AgentExecutionContext)
    (instrument : String) (contract : InstrumentRef) (key : String) : System :=
  if key ∈ s.riskMutationDispatches then s
  else { s with
    riskMutationDispatches := s.riskMutationDispatches.insert key
      ⟨ownerKey context.agentId context.sessionId, context.account, context.executionDomain,
        instrument, contract.symbol⟩ }

def callVenue (s : System) (dispatch : Dispatch) : System :=
  { s with
    venueDispatchesInFlight := s.venueDispatchesInFlight + 1
    dispatches := dispatch :: s.dispatches
    venueCalls := ⟨dispatch, s.journal.synced⟩ :: s.venueCalls }

/-- The venue call has returned and the mutex is held again. -/
def venueReturned (s : System) (dispatch : Dispatch) : System :=
  { s with
    venueDispatchesInFlight := s.venueDispatchesInFlight - 1
    dispatches := s.dispatches.erase dispatch }

/-- The risk scope of a returned place or flatten is closed. -/
def endRiskMutationDispatch (s : System) (key : String) : System :=
  { s with riskMutationDispatches := s.riskMutationDispatches.erase key }

/-! ### What the updates leave alone -/

section requests

variable (s : System)

@[simp] lemma requests_block (reason : String) : (s.block reason).requests = s.requests := rfl

@[simp] lemma requests_setJournal (journal : OmsJournal) :
    (s.setJournal journal).requests = s.requests := rfl

@[simp] lemma requests_setOwner (orderId : Int) (owner : ExecutionOrderOwner) :
    (s.setOwner orderId owner).requests = s.requests := rfl

lemma modifyRecord_of_lookup {key : String} {r : RequestRecord} (h : s.requests.lookup key = some r)
    (f : RequestRecord → RequestRecord) : s.modifyRecord key f = s.putRecord key (f r) := by
  simp [modifyRecord, h]

end requests

variable {s : System} {context : AgentExecutionContext} {requestHash : String}

/-- The rejection of a command whose record is there changes its outcome only. -/
lemma reject_of_lookup {r : RequestRecord}
    (h : s.requests.lookup context.requestKey = some r) (ht : context.toolCallId ≠ "")
    (hh : r.requestHash = requestHash) (ha : r.context.agentId ≠ "")
    (reasonCode detail : String) (orderId : Int) :
    (s.reject context reasonCode detail orderId requestHash).1 =
      s.putRecord context.requestKey { r with
        status := .rejected, orderId := orderId, reasonCode := reasonCode, detail := detail } := by
  subst hh
  simp [reject, rejectedRecord, h, ht, ha]

lemma reject_of_fresh (h : s.requests.lookup context.requestKey = none)
    (ht : context.toolCallId ≠ "") (reasonCode detail : String) (orderId : Int) :
    (s.reject context reasonCode detail orderId requestHash).1 =
      s.putRecord context.requestKey
        { status := .rejected, orderId := orderId, reasonCode := reasonCode, detail := detail,
          requestHash := requestHash, context := context } := by
  by_cases hh : requestHash = "" <;> simp [reject, rejectedRecord, h, ht, hh]

end System

end Hepta
