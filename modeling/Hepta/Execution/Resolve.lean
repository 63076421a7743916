import Hepta.Execution.Recovery

/-!
# Resolving uncertain commands

The operations that settle uncertain commands from authoritative venue evidence
(`execution_coordinator.cpp`). Each of them traverses the request map, whose order is not
specified, so the order is an argument.
-/

namespace Hepta

def isKnownIbTerminalStatus (status : String) : Bool :=
  status = "Filled" || status = "Cancelled" || status = "ApiCancelled" ||
  status = "Inactive" || status = "Rejected"

def isSuccessfulCancelTerminalStatus (status : String) : Bool :=
  status = "Cancelled" || status = "ApiCancelled"

namespace RequestRecord

/-- The records that `ResolveUncertainPlaceCommands` may settle. -/
def placeResolvable (record : RequestRecord) : Prop :=
  record.status = .uncertain ∧ (record.operation = .place ∨ record.operation = .flatten) ∧
  (record.reasonCode = recoveryReconcileRequired ∨
    (record.operation = .place ∧ record.reasonCode = "IB_PLACE_OUTCOME_UNCERTAIN") ∨
    (record.operation = .flatten ∧ record.reasonCode = "IB_FLATTEN_OUTCOME_UNCERTAIN")) ∧
  record.venueCorrelationId ≠ ""
deriving Decidable

/-- The records that the cancel resolvers may settle. -/
def cancelResolvable (record : RequestRecord) : Prop :=
  record.status = .uncertain ∧ record.operation = .cancel ∧
  isRecoverableCancelReason record.reasonCode = true ∧ 0 ≤ record.orderId
deriving Decidable

end RequestRecord

/-- The verdict on a cancel whose target is terminal or executed. -/
def cancelResolutionCode (terminalStatus : Option String) (executed : Bool) : String :=
  if terminalStatus.any isSuccessfulCancelTerminalStatus ∧ !executed then
    "AUTHORITATIVE_CANCEL_TERMINAL_CONFIRMED"
  else if executed ∨ terminalStatus = some "Filled" then "AUTHORITATIVE_CANCEL_TARGET_FILLED"
  else "AUTHORITATIVE_CANCEL_TARGET_TERMINAL"

def cancelResolutionAccepted (terminalStatus : Option String) (executed : Bool) : Bool :=
  terminalStatus.any isSuccessfulCancelTerminalStatus && !executed

inductive ResolveStep
  | skip
  | settled (s : System)
  | stop (s : System) (reason : String)

/-- What a resolver reports: the number of settled commands, and the reason when it gives up. -/
structure ResolveResult where
  resolvedCommands : Nat := 0
  failure : Option String := none
deriving DecidableEq, Repr

namespace System

variable (S : Service)

/-- The traversal that the resolvers share; the record number `n` is the number of records
written so far. -/
def forEachRequest (body : System → String → RequestRecord → Nat → ResolveStep) :
    List String → Nat → System → System × ResolveResult
  | [], n, s => (s, { resolvedCommands := n })
  | key :: keys, n, s =>
    match s.requests.lookup key with
    | none => forEachRequest body keys n s
    | some record =>
      match body s key record n with
      | .skip => forEachRequest body keys n s
      | .settled s => forEachRequest body keys (n + 1) s
      | .stop s reason => (s, { resolvedCommands := n, failure := some reason })

variable (s : System)

/-- The resolvers lift the recovery block once no command is uncertain. -/
def releaseRecoveryBlock : System :=
  if ¬ s.uncertainRemains ∧ s.mutationBlockReason = recoveryReconcileRequired then s.unblock
  else s

/-- A traversal that reached its end is followed by the release of the recovery block. -/
def finishResolve (outcome : System × ResolveResult) : System × ResolveResult :=
  if outcome.2.failure = none then (outcome.1.releaseRecoveryBlock, outcome.2) else outcome

/-- `record.status = …; record.reasonCode = …` of the resolvers. -/
def settleRecord (key : String) (record : RequestRecord) (accepted : Bool)
    (resolutionCode : String) (orderId : Int) : System :=
  s.putRecord key { record with
    status := if accepted then .accepted else .rejected
    orderId := orderId
    reasonCode := resolutionCode
    detail := resolutionCode }

/-- The body of `ResolveUncertainPlaceCommands`. -/
def resolvePlaceRecord (correlations : OMap String Int) (resolveMissingAsRejected : Bool)
    (io : Io) (s : System) (key : String) (record : RequestRecord) (n : Nat) : ResolveStep :=
  let venue := correlations.find record.venueCorrelationId
  if ¬ record.placeResolvable ∨ (venue = none ∧ !resolveMissingAsRejected) then .skip
  else
    let accepted : Bool := venue.any (0 ≤ ·)
    let orderId := if accepted then venue.getD (-1) else -1
    let resolutionCode := if accepted then "AUTHORITATIVE_CORRELATION_CONFIRMED"
      else "AUTHORITATIVE_CORRELATION_NOT_FOUND"
    let resolution := buildEvent (io.clock n) record.context .executionCommandResolved orderId
      record.instrument record.side record.quantity record.price
      (if accepted then "accepted" else "rejected") resolutionCode resolutionCode
      record.requestHash record.venueCorrelationId
    match s.appendOrBlock S resolution "OMS_EXECUTION_RESOLUTION_WRITE_FAILED" (io.file n) with
    | (false, s) => .stop s "OMS_EXECUTION_RESOLUTION_WRITE_FAILED"
    | (true, s) =>
      let s := s.settleRecord key record accepted resolutionCode orderId
      .settled (if accepted then
          s.setOwner orderId (orderOwner record.context record.instrument record.side
            record.venueCorrelationId)
        else s)

def resolveUncertainPlaceCommands (correlations : OMap String Int)
    (complete resolveMissingAsRejected : Bool) (order : List String) (io : Io) :
    System × ResolveResult :=
  if !complete then (s, { failure := some "AUTHORITATIVE_CORRELATION_SNAPSHOT_INCOMPLETE" })
  else finishResolve <|
    forEachRequest (resolvePlaceRecord S correlations resolveMissingAsRejected io) order 0 s

/-! ### Cancels by order number -/

/-- Broker evidence about orders named by number. -/
structure CancelEvidence where
  activeOrderIds : Finset Int := ∅
  activeComplete : Bool := true
  terminalStatuses : OMap Int String := {}
  executionOrderIds : Finset Int := ∅
  terminalComplete : Bool := true

/-- The checks of `ResolveUncertainCancelCommands` on its evidence. -/
def CancelEvidence.defect (evidence : CancelEvidence) : Option String :=
  if !evidence.activeComplete then some "AUTHORITATIVE_ACTIVE_ORDER_SNAPSHOT_INCOMPLETE"
  else if !evidence.terminalComplete then some "AUTHORITATIVE_TERMINAL_ORDER_SNAPSHOT_INCOMPLETE"
  else (evidence.terminalStatuses.entries.findSome? fun (orderId, status) =>
      if orderId < 0 ∨ !isKnownIbTerminalStatus status then
        some "AUTHORITATIVE_CANCEL_TERMINAL_STATUS_INVALID"
      else if orderId ∈ evidence.activeOrderIds then
        some "AUTHORITATIVE_CANCEL_ACTIVE_TERMINAL_CONFLICT"
      else none).or
    (if ∃ orderId ∈ evidence.executionOrderIds, orderId < 0 then
      some "AUTHORITATIVE_CANCEL_ACTIVE_EXECUTION_CONFLICT" else none)

/-- The body of `ResolveUncertainCancelCommands`: the owner goes by its number alone, and the
record of the resolution carries no correlation. -/
def resolveCancelRecord (evidence : CancelEvidence) (io : Io) (s : System) (key : String)
    (record : RequestRecord) (n : Nat) : ResolveStep :=
  let terminal := evidence.terminalStatuses.find record.orderId
  let executed : Bool := record.orderId ∈ evidence.executionOrderIds
  if ¬ record.cancelResolvable ∨ record.orderId ∈ evidence.activeOrderIds ∨
      record.orderId = 0 ∨ (terminal = none ∧ !executed) then .skip
  else
    let accepted := cancelResolutionAccepted terminal executed
    let resolutionCode := cancelResolutionCode terminal executed
    let resolution := buildEvent (io.clock n) record.context .cancelCommandResolved record.orderId
      record.instrument record.side .zero .zero (if accepted then "accepted" else "rejected")
      resolutionCode resolutionCode record.requestHash ""
    match s.appendOrBlock S resolution "OMS_CANCEL_RESOLUTION_WRITE_FAILED" (io.file n) with
    | (false, s) => .stop s "OMS_CANCEL_RESOLUTION_WRITE_FAILED"
    | (true, s) => .settled ((s.settleRecord key record accepted resolutionCode record.orderId)
        |>.eraseOwner record.orderId)

def resolveUncertainCancelCommands (evidence : CancelEvidence) (order : List String) (io : Io) :
    System × ResolveResult :=
  match evidence.defect with
  | some reason => (s, { failure := some reason })
  | none => finishResolve (forEachRequest (resolveCancelRecord S evidence io) order 0 s)

/-! ### Cancels by correlation -/

structure CorrelationEvidence where
  activeOrderIds : OMap String Int := {}
  activeComplete : Bool := true
  terminalOrderIds : OMap String Int := {}
  terminalStatuses : OMap String String := {}
  executionCorrelations : Finset String := ∅
  terminalComplete : Bool := true

variable (evidence : CorrelationEvidence)

/-- The checks of `ResolveUncertainCancelCommandsByCorrelation` on its evidence. -/
def CorrelationEvidence.defect : Option String :=
  if !evidence.activeComplete then some "AUTHORITATIVE_ACTIVE_ORDER_SNAPSHOT_INCOMPLETE"
  else if !evidence.terminalComplete then some "AUTHORITATIVE_TERMINAL_ORDER_SNAPSHOT_INCOMPLETE"
  else if evidence.terminalOrderIds.entries.length ≠ evidence.terminalStatuses.entries.length then
    some "AUTHORITATIVE_CANCEL_TERMINAL_CORRELATION_INCOMPLETE"
  else if ∃ active ∈ evidence.activeOrderIds.entries, active.1 = "" ∨ active.2 < 0 then
    some "AUTHORITATIVE_CANCEL_ACTIVE_CORRELATION_INVALID"
  else (evidence.terminalOrderIds.entries.findSome? fun (correlation, orderId) =>
      if correlation = "" ∨ orderId < 0 ∨
          !(evidence.terminalStatuses.find correlation).any isKnownIbTerminalStatus then
        some "AUTHORITATIVE_CANCEL_TERMINAL_CORRELATION_INVALID"
      else if (evidence.activeOrderIds.find correlation).isSome then
        some "AUTHORITATIVE_CANCEL_ACTIVE_TERMINAL_CONFLICT"
      else none).or
    (if ∃ status ∈ evidence.terminalStatuses.entries,
        evidence.terminalOrderIds.find status.1 = none then
      some "AUTHORITATIVE_CANCEL_TERMINAL_CORRELATION_INCOMPLETE"
    else if "" ∈ evidence.executionCorrelations then
      some "AUTHORITATIVE_CANCEL_EXECUTION_CORRELATION_INVALID"
    else none)

/-- The evidence says that the order of this correlation is terminal or has executed. -/
def CorrelationEvidence.settles (correlation : String) : Prop :=
  (evidence.terminalOrderIds.find correlation).isSome ∨
    correlation ∈ evidence.executionCorrelations
deriving Decidable

/-- The owner goes only when it carries the correlation of the record. -/
def eraseCorrelatedOwner (record : RequestRecord) : System :=
  match s.orderOwners.lookup record.orderId with
  | some owner =>
    if owner.venueCorrelationId = record.venueCorrelationId then s.eraseOwner record.orderId
    else s
  | none => s

/-- The body of `ResolveUncertainCancelCommandsByCorrelation`. -/
def resolveCancelRecordByCorrelation (io : Io) (s : System) (key : String)
    (record : RequestRecord) (n : Nat) : ResolveStep :=
  let correlation := record.venueCorrelationId
  let terminal := evidence.terminalOrderIds.find correlation
  let status := evidence.terminalStatuses.find correlation
  let executed : Bool := correlation ∈ evidence.executionCorrelations
  if ¬ record.cancelResolvable then .skip
  else if correlation = "" then .stop s "AUTHORITATIVE_CANCEL_TARGET_CORRELATION_REQUIRED"
  else match evidence.activeOrderIds.find correlation with
    | some active =>
      if active ≠ record.orderId then
        .stop s "AUTHORITATIVE_CANCEL_ACTIVE_CORRELATION_ID_MISMATCH"
      else .skip
    | none =>
      if record.orderId = 0 then .skip
      else if terminal.any fun orderId => orderId ≠ 0 ∧ orderId ≠ record.orderId then
        .stop s "AUTHORITATIVE_CANCEL_TERMINAL_CORRELATION_ID_MISMATCH"
      else if ¬ evidence.settles correlation then .skip
      else if terminal.isSome ∧ status = none then
        .stop s "AUTHORITATIVE_CANCEL_TERMINAL_CORRELATION_INCOMPLETE"
      else
        -- the status counts only together with a terminal order id
        let terminalStatus := if terminal.isSome then status else none
        let accepted := cancelResolutionAccepted terminalStatus executed
        let resolutionCode := cancelResolutionCode terminalStatus executed
        let resolution := buildEvent (io.clock n) record.context .cancelCommandResolved
          record.orderId record.instrument record.side .zero .zero
          (if accepted then "accepted" else "rejected") resolutionCode resolutionCode
          record.requestHash correlation
        match s.appendOrBlock S resolution "OMS_CANCEL_RESOLUTION_WRITE_FAILED" (io.file n) with
        | (false, s) => .stop s "OMS_CANCEL_RESOLUTION_WRITE_FAILED"
        | (true, s) =>
          .settled ((s.settleRecord key record accepted resolutionCode record.orderId)
            |>.eraseCorrelatedOwner record)

def resolveUncertainCancelCommandsByCorrelation (order : List String) (io : Io) :
    System × ResolveResult :=
  match evidence.defect with
  | some reason => (s, { failure := some reason })
  | none =>
    finishResolve (forEachRequest (resolveCancelRecordByCorrelation S evidence io) order 0 s)

def resolveProjectionBlock (io : Io) : System × Bool :=
  if !s.mutationBlocked then (s, true)
  else if !isProjectionFailureReason s.mutationBlockReason then (s, false)
  else
    let resolved : OmsJournalEvent :=
      { eventType := .executionProjectionResolved
        tsMs := io.clock 0
        eventId := "execution-projection-resolved:" ++ toString (io.clock 0)
        status := "authoritative_resync_complete"
        reason := s.mutationBlockReason
        source := "execution.coordinator" }
    match s.appendOrBlock S resolved "OMS_EXECUTION_PROJECTION_RESOLUTION_WRITE_FAILED"
        (io.file 0) with
    | (false, s) => (s, false)
    | (true, s) =>
      ({ s with requests := s.requests.mapValues Coordinator.resolveProjection }.unblock, true)

end System

end Hepta
