import Hepta.Execution.Flatten
import Hepta.Execution.Resolve

/-!
# The life of a command

The records of one command follow a fixed course: an intent, at most one send attempt, its outcome,
and at most one resolution. `Stage` is how far a command has come, `next` which record may follow.
Recovery folds the same records into a request record; `absorb` is one step of that fold, and
`Agrees` says that the record in memory and the folded one tell the same story.
-/

namespace Hepta

/-! ### Identities -/

/-- What all records of a command have in common. -/
structure CommandIdentity where
  agentId : String
  sessionId : String
  toolCallId : String
  requestHash : String
deriving DecidableEq, Repr

def RequestRecord.identity (record : RequestRecord) : CommandIdentity :=
  ⟨record.context.agentId, record.context.sessionId, record.context.toolCallId,
    record.requestHash⟩

def OmsJournalEvent.identity (event : OmsJournalEvent) : CommandIdentity :=
  ⟨event.agentId, event.traceId, event.commandId, event.requestHash⟩

/-- The event types that recovery applies to a command. -/
def EventType.isCommand : EventType → Bool
  | .executionProjectionResolved | .accountNewEntryFenced | .sessionOwnerFenced
  | .sessionOwnerRecoveryOnly | .sessionOwnerFenceRelease | .orderOwnerReconciledTerminal
  | .paperTerminalFence => false
  | _ => true

def EventType.isFence : EventType → Bool
  | .accountNewEntryFenced | .sessionOwnerFenced | .sessionOwnerRecoveryOnly
  | .sessionOwnerFenceRelease | .paperTerminalFence => true
  | _ => false

def EventType.isProjectionFailure : EventType → Bool
  | .executionProjectionFailed => true
  | _ => false

/-- A record that recovery applies to a command. -/
def OmsJournalEvent.isCommand (event : OmsJournalEvent) : Bool :=
  event.eventType.isCommand && event.commandId ≠ "" && event.agentId ≠ ""

@[simp] lemma agentIdFromSource_agentSource (agentId : String) :
    agentIdFromSource (agentSource agentId) = agentId := by
  have h : agentSourcePrefix.toList.isPrefixOf (agentSourcePrefix.toList ++ agentId.toList) := by
    simp
  simp [agentIdFromSource, agentSource, h]

lemma toolCallId_ne_empty {context : AgentExecutionContext} (h : context.identified = true) :
    context.toolCallId ≠ "" := by
  simp only [AgentExecutionContext.identified, Bool.and_eq_true, decide_eq_true_eq] at h
  exact h.1.1

lemma agentId_ne_empty {context : AgentExecutionContext} (h : context.identified = true) :
    context.agentId ≠ "" := by
  simp only [AgentExecutionContext.identified, Bool.and_eq_true, decide_eq_true_eq] at h
  exact h.1.2

section buildEvent

variable {tsMs : Int} {context : AgentExecutionContext} {eventType : EventType} {orderId : Int}
  {instrument side : String} {qty price : Double} {status reason riskCode : String}
  {requestHash correlation : String}

@[simp] lemma agentId_buildEvent :
    (buildEvent tsMs context eventType orderId instrument side qty price status reason riskCode
      requestHash correlation).agentId = context.agentId :=
  agentIdFromSource_agentSource _

lemma commandId_buildEvent (h : context.toolCallId ≠ "") :
    (buildEvent tsMs context eventType orderId instrument side qty price status reason riskCode
      requestHash correlation).commandId = context.toolCallId := by
  simp [OmsJournalEvent.commandId, buildEvent, h]

lemma identity_buildEvent (h : context.toolCallId ≠ "") :
    (buildEvent tsMs context eventType orderId instrument side qty price status reason riskCode
      requestHash correlation).identity =
      ⟨context.agentId, context.sessionId, context.toolCallId, requestHash⟩ := by
  simp only [OmsJournalEvent.identity, agentId_buildEvent, commandId_buildEvent h]
  rfl

/-- A receipt names the owner that memory records. -/
lemma owner_buildEvent :
    (buildEvent tsMs context eventType orderId instrument side qty price status reason riskCode
      requestHash correlation).owner = orderOwner context instrument side correlation := by
  simp only [OmsJournalEvent.owner, agentId_buildEvent]
  rfl

lemma isCommand_buildEvent (h : context.identified = true) :
    (buildEvent tsMs context eventType orderId instrument side qty price status reason riskCode
      requestHash correlation).isCommand = eventType.isCommand := by
  have hc := toolCallId_ne_empty h
  simp only [AgentExecutionContext.identified, Bool.and_eq_true, decide_eq_true_eq] at h
  simp only [OmsJournalEvent.isCommand, commandId_buildEvent hc, agentId_buildEvent, h.1.1, h.1.2,
    ne_eq, not_false_eq_true, decide_true, Bool.and_true]
  rfl

lemma requestKey_buildEvent (h : context.toolCallId ≠ "") :
    (buildEvent tsMs context eventType orderId instrument side qty price status reason riskCode
      requestHash correlation).requestKey = context.requestKey := by
  simp only [OmsJournalEvent.requestKey, agentId_buildEvent, commandId_buildEvent h]
  rfl

end buildEvent

/-! ### Stages -/

/-- How far a command has come. -/
inductive Stage
  | fresh
  | intended (operation : Operation)
  | attempted (operation : Operation)
  | reserved
  | unresolved (operation : Operation)
  | sent (operation : Operation)
  | projectionFailed (operation : Operation)
  | closed (operation : Operation)
deriving DecidableEq, Repr

namespace Stage

/-- The resolution that a command in doubt may get. -/
def resolvedBy : Operation → EventType → Bool
  | .place, .executionCommandResolved   => true
  | .flatten, .executionCommandResolved => true
  | .cancel, .cancelCommandResolved     => true
  | _, _                                => false

def outcome (operation : Operation) (event : OmsJournalEvent) : Option Stage :=
  match operation, event.eventType with
  | .place, .reject                     => some (.closed .place)
  | .place, .placeOutcomeUncertain      => some (.unresolved .place)
  | .place, .placeSent                  =>
    if event.status = "activation_pending" then some .reserved else some (.sent .place)
  | .cancel, .reject                    => some (.closed .cancel)
  | .cancel, .cancel                    =>
    if event.status = "cancel_pending" then some (.unresolved .cancel)
    else if event.status = "cancel_sent" then some (.sent .cancel) else none
  | .flatten, .flattenReject            => some (.closed .flatten)
  | .flatten, .flattenOutcomeUncertain  => some (.unresolved .flatten)
  | .flatten, .flattenSent              => some (.sent .flatten)
  | _, _                                => none

/-- The stage after one more record, if the record may come now. -/
def next (stage : Stage) (event : OmsJournalEvent) : Option Stage :=
  match stage with
  | .fresh => match event.eventType with
    | .orderIntent   => some (.intended .place)
    | .flattenIntent => some (.intended .flatten)
    | .flattenReject => some (.closed .flatten)
    | .cancel        => if event.status = "intent_recorded" then some (.intended .cancel) else none
    | _              => none
  | .intended operation => match operation, event.eventType with
    | .place, .placeSendAttempt     => some (.attempted .place)
    | .cancel, .cancelSendAttempt   => some (.attempted .cancel)
    | .flatten, .flattenSendAttempt => some (.attempted .flatten)
    | .flatten, .flattenNoop        => some (.closed .flatten)
    | .flatten, .flattenReject      => some (.closed .flatten)
    | _, eventType => if resolvedBy operation eventType then some (.closed operation) else none
  | .attempted operation =>
    if resolvedBy operation event.eventType then some (.closed operation)
    else outcome operation event
  | .reserved => match event.eventType with
    | .placeActivated           => some (.sent .place)
    | .placeOutcomeUncertain    => some (.unresolved .place)
    | .executionCommandResolved => some (.closed .place)
    | _                         => none
  | .unresolved operation =>
    if resolvedBy operation event.eventType then some (.closed operation) else none
  | .sent operation =>
    if event.eventType = .executionProjectionFailed ∧ isProjectionFailureReason event.riskCode then
      some (.projectionFailed operation)
    else none
  | .projectionFailed _ => none
  | .closed _ => none

/-- The stage after several records. -/
def advance (stage : Stage) (events : List OmsJournalEvent) : Option Stage := events.foldlM next stage

def resolvable (operation : Operation) : Stage → Bool
  | .intended op | .attempted op | .unresolved op => op = operation
  | .reserved => operation = .place
  | _ => false

variable {operation : Operation}

lemma resolvedBy_cases {eventType : EventType}
    (h : resolvedBy operation eventType = true) :
    (operation = .place ∨ operation = .flatten) ∧ eventType = .executionCommandResolved ∨
      operation = .cancel ∧ eventType = .cancelCommandResolved := by
  revert h
  cases operation <;> cases eventType <;> simp [resolvedBy]

/-- A command in doubt takes its resolution. -/
lemma next_resolved {stage : Stage} {event : OmsJournalEvent}
    (hs : stage.resolvable operation = true) (hv : resolvedBy operation event.eventType = true)
    : stage.next event = some (.closed operation) := by
  have hc := resolvedBy_cases hv
  cases stage with
  | intended op | attempted op | unresolved op =>
    obtain rfl : op = operation := by simpa [resolvable] using hs
    rcases hc with ⟨rfl | rfl, he⟩ | ⟨rfl, he⟩ <;> simp [next, resolvedBy, he]
  | reserved =>
    obtain rfl : operation = .place := by simpa [resolvable] using hs
    simp_all [next, resolvedBy]
  | fresh | sent _ | projectionFailed _ | closed _ => simp [resolvable] at hs

end Stage

/-! ### Records in memory and records folded from the journal -/

namespace RequestRecord

variable (record : RequestRecord) (event : OmsJournalEvent)

/-- One record of the journal is folded into the record of its command. -/
def absorb : RequestRecord :=
  (record.hydrate event).applyCommandState event

lemma applyCommandState_kept : (record.applyCommandState event).requestHash = record.requestHash ∧
    (record.applyCommandState event).venueCorrelationId = record.venueCorrelationId ∧
    (record.applyCommandState event).orderId = record.orderId ∧
    (record.applyCommandState event).context = record.context := by
  unfold applyCommandState
  cases event.eventType <;> dsimp only <;> (try split_ifs) <;> simp

@[simp] lemma absorb_requestHash : (record.absorb event).requestHash = if record.requestHash = ""
    then event.requestHash else record.requestHash :=
  (applyCommandState_kept _ event).1

@[simp] lemma absorb_venueCorrelationId : (record.absorb event).venueCorrelationId = if
    record.venueCorrelationId = "" then event.venueCorrelationId else record.venueCorrelationId :=
  (applyCommandState_kept _ event).2.1

@[simp] lemma absorb_orderId : (record.absorb event).orderId = event.orderId :=
  (applyCommandState_kept _ event).2.2.1

lemma absorb_context : (record.absorb event).context = (record.hydrate event).context :=
  (applyCommandState_kept _ event).2.2.2

@[simp] lemma absorb_agentId : (record.absorb event).context.agentId = event.agentId := by
  rw [absorb_context]; rfl

@[simp] lemma absorb_sessionId : (record.absorb event).context.sessionId = event.traceId := by
  rw [absorb_context]; rfl

@[simp] lemma absorb_toolCallId : (record.absorb event).context.toolCallId = event.commandId := by
  rw [absorb_context]; rfl

/-- What the fold of a command's records keeps from its first record on. -/
structure Stems (base folded : RequestRecord) : Prop where
  requestHash : folded.requestHash = base.requestHash
  venueCorrelationId : folded.venueCorrelationId = base.venueCorrelationId
  operation : folded.operation = base.operation

/-- The record in memory and the folded one describe the same command in the same state. While
the venue is awaited the two give different reasons. -/
structure Agrees (live folded : RequestRecord) : Prop where
  identity : live.identity = folded.identity
  venueCorrelationId : live.venueCorrelationId = folded.venueCorrelationId
  operation : live.operation = folded.operation
  status : live.status = folded.status
  orderId : live.orderId = folded.orderId
  reasonCode : live.reasonCode = folded.reasonCode ∨
    live.reasonCode = brokerResultPending ∧ folded.reasonCode = recoveryReconcileRequired

lemma Agrees.refl : Agrees record record :=
  ⟨rfl, rfl, rfl, rfl, rfl, .inl rfl⟩

lemma Agrees.requestHash {live folded : RequestRecord} (h : Agrees live folded) :
    live.requestHash = folded.requestHash :=
  congrArg CommandIdentity.requestHash h.identity

lemma Agrees.stems {live folded : RequestRecord} (h : Agrees live folded) : Stems live folded :=
  ⟨h.requestHash.symm, h.venueCorrelationId.symm, h.operation.symm⟩

/-- A record that a resolver may settle belongs to a command in doubt. -/
def Fits (stage : Stage) : Prop :=
  record.placeResolvable ∨ record.cancelResolvable → stage.resolvable record.operation = true

/-- The reasons under which some resolver settles a record. -/
def isResolvableReason (reason : String) : Bool :=
  reason = recoveryReconcileRequired || reason = "IB_PLACE_OUTCOME_UNCERTAIN" ||
  reason = "IB_FLATTEN_OUTCOME_UNCERTAIN" || reason = "IB_CANCEL_DEFERRED_UNTIL_BROKER_ACK"

/-- No resolver touches the record. -/
def inert : Prop :=
  ¬ record.placeResolvable ∧ ¬ record.cancelResolvable

lemma inert_of_reasonCode {record : RequestRecord}
    (h : isResolvableReason record.reasonCode = false) : record.inert := by
  simp only [isResolvableReason, Bool.or_eq_false_iff, decide_eq_false_iff_not] at h
  constructor
  · rintro ⟨-, -, hr | ⟨-, hr⟩ | ⟨-, hr⟩, -⟩
    · exact h.1.1.1 hr
    · exact h.1.1.2 hr
    · exact h.1.2 hr
  · rintro ⟨-, -, hr, -⟩
    simp only [isRecoverableCancelReason, Bool.or_eq_true, decide_eq_true_eq] at hr
    rcases hr with hr | hr
    · exact h.1.1.1 hr
    · exact h.2 hr

lemma inert_of_status {record : RequestRecord} (h : record.status ≠ .uncertain) : record.inert :=
  ⟨fun hr => h hr.1, fun hr => h hr.1⟩

lemma inert.fits {record : RequestRecord} (h : record.inert) (stage : Stage) : record.Fits stage :=
  fun hr => absurd hr (not_or.mpr h)

/-- A placement or a flatten whose outcome is open. -/
def unsettled : Prop :=
  record.status = .uncertain ∧ (record.operation = .place ∨ record.operation = .flatten)
deriving Decidable

end RequestRecord

/-- The record in memory while the venue is awaited. -/
def Dispatch.pending : Dispatch → RequestRecord
  | .place command dispatch        => System.pendingPlace command dispatch
  | .cancel command dispatch       => System.pendingCancel command dispatch
  | .flatten command plan dispatch => System.pendingFlatten command plan dispatch

def Dispatch.operation : Dispatch → Operation
  | .place ..   => .place
  | .cancel ..  => .cancel
  | .flatten .. => .flatten

/-- A dispatch runs under the key of its own command. -/
structure Dispatch.WellFormed (dispatch : Dispatch) : Prop where
  requestKey : dispatch.requestKey = dispatch.context.requestKey
  identified : dispatch.context.identified = true

end Hepta
