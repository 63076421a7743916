import Hepta.Execution.System
import Hepta.Execution.TerminalFence

/-!
# Recovery from the journal

`ApplyRecoveredEventLocked` and the functions it is made of, and `RecoverFromJournal`
without a generation store (`execution_coordinator.cpp`,
`execution_coordinator_recovery.cpp`).
-/

namespace Hepta

namespace Coordinator

def block (c : Coordinator) (reason : String) : Coordinator :=
  { c with mutationBlocked := true, mutationBlockReason := reason }

def putRecord (c : Coordinator) (key : String) (record : RequestRecord) : Coordinator :=
  { c with requests := c.requests.insert key record }

def setOwner (c : Coordinator) (orderId : Int) (owner : ExecutionOrderOwner) : Coordinator :=
  { c with orderOwners := c.orderOwners.insert orderId owner }

def eraseOwner (c : Coordinator) (orderId : Int) : Coordinator :=
  { c with orderOwners := c.orderOwners.erase orderId }

end Coordinator

namespace OmsJournalEvent

/-- The agent that wrote the record. -/
def agentId (event : OmsJournalEvent) : String := agentIdFromSource event.source

/-- The command identity that recovery reads from the record. -/
def commandId (event : OmsJournalEvent) : String :=
  if event.reqId ≠ "" then event.reqId
  else if event.clientReqId ≠ "" then event.clientReqId else event.eventId

def requestKey (event : OmsJournalEvent) : String :=
  Hepta.requestKey event.agentId event.traceId event.commandId

/-- The owner that a receipt or an accepted resolution gives to its order. -/
def owner (event : OmsJournalEvent) : ExecutionOrderOwner where
  agentId := event.agentId
  sessionId := event.traceId
  strategy := event.strategy
  account := event.account
  executionDomain := event.executionDomain
  instrument := event.instrument
  side := event.side
  venueCorrelationId := event.venueCorrelationId
  commandId := event.reqId

end OmsJournalEvent

/-- The status text of a release that resumes a recovery-only owner. -/
def userRecoveryRelease (fence : UInt64) : String :=
  "released-user-recovery:" ++ toString fence.toNat

/-- The fence named by the status of a release that resumes a recovery-only owner. -/
def userRecoveryFence (status : String) : Option (Option UInt64) :=
  let released := "released-user-recovery:".toList
  if released.isPrefixOf status.toList then
    let value := String.ofList (status.toList.drop released.length)
    some ((strtoull value).filter fun fence => fence ≠ 0 ∧ value = toString fence.toNat)
  else none

namespace Coordinator

variable (c : Coordinator)

def fenceSessionOwner (agentId sessionId : String) : Coordinator :=
  { c with fencedSessionOwners := insert (ownerKey agentId sessionId) c.fencedSessionOwners }

variable (event : OmsJournalEvent)

def applyRecoveredPaperTerminalFence : Coordinator :=
  match PaperTerminalFenceBinding.decode event.reason with
  | .error parseReason => c.block parseReason
  | .ok binding =>
    if binding.owner.agentId ≠ event.agentId ∨ binding.owner.sessionId ≠ event.traceId ∨
        binding.owner.account ≠ event.account ∨
        binding.owner.executionDomain ≠ event.executionDomain ∨
        binding.finalizationId ≠ event.reqId ∨
        binding.preliminaryReceiptSha256 ≠ event.requestHash ∨
        binding.brokerSocketIdentitySha256 ≠ event.venueCorrelationId ∨
        event.status ≠ toString binding.recoveryIngressFence.toNat ∨
        event.riskCode ≠ "IB_PAPER_TERMINAL_HALTED" then
      c.block "OMS_PAPER_TERMINAL_FENCE_BINDING_INVALID"
    else if c.paperTerminalFencePresent ∧ !c.paperTerminalFenceBinding.same binding then
      c.block "OMS_PAPER_TERMINAL_FENCE_CONFLICT"
    else { c with
      paperTerminalFencePresent := true
      paperTerminalFenceBinding := binding
      mutationBlocked := true
      mutationBlockReason := "IB_PAPER_TERMINAL_HALTED" }

/-- The account fence branch of `ApplyRecoveredOwnershipEventLocked`. -/
def applyRecoveredAccountFence : Coordinator :=
  if event.agentId = "" ∨ event.account = "" ∨ event.reqId = "" ∨ event.traceId = "" ∨
      event.status ≠ "fenced" ∨ event.riskCode ≠ "ACCOUNT_NEW_ENTRY_FENCED" ∨
      event.orderId ≠ -1 then
    c.block "OMS_ACCOUNT_NEW_ENTRY_FENCE_RECOVERY_INVALID"
  else { c with accountNewEntryFences := insert event.account c.accountNewEntryFences }

/-- The recovery-only branch of `ApplyRecoveredOwnershipEventLocked`. -/
def applyRecoveredRecoveryOnly : Coordinator :=
  let key := ownerKey event.agentId event.traceId
  match (strtoull event.status).filter (· ≠ 0) with
  | none => c.block "OMS_RECOVERY_ONLY_FENCE_INVALID"
  | some fence =>
    if (c.resumedRecoveryIngress.lookup key).any (fence ≤ ·) then
      c.block "OMS_RECOVERY_INGRESS_REPLAYED_AFTER_RESUME"
    else { c with
      recoveryOnlySessionOwners := c.recoveryOnlySessionOwners.insert key fence }

/-- The release branch of `ApplyRecoveredOwnershipEventLocked`. -/
def applyRecoveredRelease : Coordinator :=
  let key := ownerKey event.agentId event.traceId
  match userRecoveryFence event.status with
  | none =>
    if event.status = "released" then
      { c with fencedSessionOwners := c.fencedSessionOwners.erase key }
    else c.block "OMS_SESSION_RELEASE_STATE_INVALID"
  | some none => c.block "OMS_USER_RECOVERY_RELEASE_INVALID"
  | some (some fence) =>
    if c.recoveryOnlySessionOwners.lookup key = some fence ∧ !c.paperTerminalFencePresent then
      { c with
        resumedRecoveryIngress := c.resumedRecoveryIngress.insert key fence
        recoveryOnlySessionOwners := c.recoveryOnlySessionOwners.erase key
        fencedSessionOwners := c.fencedSessionOwners.erase key }
    else c.block "OMS_USER_RECOVERY_RELEASE_INVALID"

/-- `ApplyRecoveredOwnershipEventLocked`; `none` on an event of a command. -/
def applyRecoveredOwnershipEvent : Option Coordinator :=
  match event.eventType with
  | .accountNewEntryFenced        => some (c.applyRecoveredAccountFence event)
  | .sessionOwnerFenced           => some (c.fenceSessionOwner event.agentId event.traceId)
  | .sessionOwnerRecoveryOnly     => some (c.applyRecoveredRecoveryOnly event)
  | .sessionOwnerFenceRelease     => some (c.applyRecoveredRelease event)
  | .orderOwnerReconciledTerminal => some (c.eraseOwner event.orderId)
  | .paperTerminalFence           => some (c.applyRecoveredPaperTerminalFence event)
  | _                             => none

/-- What `execution_projection_resolved` does to one record. -/
def resolveProjection (record : RequestRecord) : RequestRecord :=
  if isProjectionFailureReason record.reasonCode then
    { record with status := .accepted, reasonCode := "", detail := "" }
  else record

def applyRecoveredProjectionResolved : Coordinator :=
  let c := { c with requests := c.requests.mapValues resolveProjection }
  if isProjectionFailureReason c.mutationBlockReason then
    { c with mutationBlocked := false, mutationBlockReason := "" }
  else c

/-- The events that count as a broker send of their command. -/
def isSendEvidence : EventType → Bool
  | .placeSendAttempt | .placeSent | .flattenSendAttempt | .flattenSent => true
  | _ => false

def trackRecoveredSendAttempt : Coordinator :=
  if !isSendEvidence event.eventType ∨ event.requestKey ∈ c.placeSendAttemptKeys then c
  else { c with
    placeSendAttemptKeys := insert event.requestKey c.placeSendAttemptKeys
    placeSendAttempts := c.placeSendAttempts ++
      [⟨event.requestKey, event.account, event.executionDomain, event.tsMs⟩] }

end Coordinator

namespace RequestRecord

def hashConflict (record : RequestRecord) (event : OmsJournalEvent) : Prop :=
  record.requestHash ≠ "" ∧ event.requestHash ≠ "" ∧ record.requestHash ≠ event.requestHash
deriving Decidable

/-- `HydrateRecoveredRecordLocked` on a record without a hash conflict. -/
def hydrate (record : RequestRecord) (event : OmsJournalEvent) : RequestRecord :=
  { record with
    requestHash := if record.requestHash = "" then event.requestHash else record.requestHash
    venueCorrelationId := if record.venueCorrelationId = "" then event.venueCorrelationId
      else record.venueCorrelationId
    context := { record.context with
      agentId := event.agentId
      sessionId := event.traceId
      toolCallId := event.commandId
      strategy := event.strategy
      account := event.account
      venue := event.venue
      executionDomain := event.executionDomain }
    instrument := event.instrument
    side := event.side
    quantity := event.qty
    price := event.price
    orderId := event.orderId }

/-- The `cancel` records that recovery knows. -/
def isRecoveredCancelStatus (status : String) : Bool :=
  status = "cancel_sent" || status = "cancel_pending" || status = "intent_recorded"

/-- The record part of `ApplyRecoveredCommandStateLocked`. -/
def applyCommandState (record : RequestRecord) (event : OmsJournalEvent) : RequestRecord :=
  let unresolved := recoveryReconcileRequired
  match event.eventType with
  | .orderIntent => { record with
      durableMutationIntent := true, operation := .place, status := .uncertain,
      reasonCode := unresolved }
  | .flattenIntent => { record with
      durableMutationIntent := true, operation := .flatten, status := .uncertain,
      reasonCode := unresolved }
  | .flattenSendAttempt => { record with
      operation := .flatten, status := .uncertain, reasonCode := unresolved }
  | .placeSent =>
    if event.status = "activation_pending" then
      { record with operation := .place, status := .uncertain, reasonCode := unresolved }
    else { record with operation := .place, status := .accepted, reasonCode := "" }
  | .placeActivated => { record with operation := .place, status := .accepted, reasonCode := "" }
  | .flattenSent => { record with operation := .flatten, status := .accepted, reasonCode := "" }
  | .placeOutcomeUncertain => { record with
      operation := .place, status := .uncertain, detail := event.reason,
      reasonCode := if event.riskCode = "" then "IB_PLACE_OUTCOME_UNCERTAIN"
        else event.riskCode }
  | .flattenOutcomeUncertain => { record with
      operation := .flatten, status := .uncertain, detail := event.reason,
      reasonCode := if event.riskCode = "" then "IB_FLATTEN_OUTCOME_UNCERTAIN"
        else event.riskCode }
  | .reject => { record with
      operation := if record.operation = .unset then .place else record.operation,
      status := .rejected, reasonCode := event.riskCode, detail := event.reason }
  | .flattenReject => { record with
      operation := if record.operation = .unset then .flatten else record.operation,
      status := .rejected, reasonCode := event.riskCode, detail := event.reason }
  | .cancel =>
    let record := { record with
      durableMutationIntent :=
        record.durableMutationIntent || event.status = "intent_recorded" }
    if !isRecoveredCancelStatus event.status then record
    else if event.status = "cancel_sent" then { record with
      operation := .cancel, status := .accepted, reasonCode := "", detail := event.reason }
    else { record with
      operation := .cancel, status := .uncertain, detail := event.reason,
      reasonCode := if event.status = "cancel_pending" ∧ event.riskCode ≠ "" then event.riskCode
        else unresolved }
  | .cancelSendAttempt => { record with
      operation := .cancel, status := .uncertain, detail := event.reason,
      reasonCode := if event.status = "cancel_pending" ∧ event.riskCode ≠ "" then event.riskCode
        else unresolved }
  | .flattenNoop => { record with
      operation := .flatten, status := .accepted, reasonCode := event.riskCode }
  | .executionProjectionFailed => { record with
      status := .uncertain, detail := event.reason,
      reasonCode := if event.riskCode = "" then "AUTHORITATIVE_EXECUTION_PROJECTION_FAILED"
        else event.riskCode }
  | .executionCommandResolved => { record with
      operation := if record.operation = .unset then .place else record.operation,
      status := if event.status = "accepted" then .accepted else .rejected,
      reasonCode := event.riskCode, detail := event.reason }
  | .cancelCommandResolved => { record with
      operation := .cancel,
      status := if event.status = "accepted" then .accepted else .rejected,
      reasonCode := event.riskCode, detail := event.reason }
  | _ => record

end RequestRecord

namespace Coordinator

/-- What `ApplyRecoveredCommandStateLocked` does to the order owners. -/
def applyCommandOwner (owners : UMap Int ExecutionOrderOwner) (event : OmsJournalEvent) :
    UMap Int ExecutionOrderOwner :=
  match event.eventType with
  | .placeSent | .placeActivated | .flattenSent =>
    if 0 ≤ event.orderId then owners.insert event.orderId event.owner else owners
  | .executionCommandResolved =>
    if event.status = "accepted" ∧ 0 ≤ event.orderId then owners.insert event.orderId event.owner
    else owners
  | .cancelCommandResolved =>
    if 0 ≤ event.orderId then owners.erase event.orderId else owners
  | _ => owners

/-- The part of `ApplyRecoveredEventLocked` that concerns a command: a hash conflict leaves an
empty or unchanged record behind and blocks. -/
def applyRecoveredCommandEvent (c : Coordinator) (event : OmsJournalEvent) : Coordinator :=
  let c := c.trackRecoveredSendAttempt event
  let record := (c.requests.lookup event.requestKey).getD {}
  if record.hashConflict event then
    (c.putRecord event.requestKey record).block "OMS_REQUEST_HASH_CONFLICT"
  else
    let record := (record.hydrate event).applyCommandState event
    let c := { c.putRecord event.requestKey record with
      orderOwners := applyCommandOwner c.orderOwners event }
    if event.eventType = .executionProjectionFailed then c.block record.reasonCode else c

def applyRecoveredEvent (c : Coordinator) (event : OmsJournalEvent) : Coordinator :=
  if event.eventType = .executionProjectionResolved then c.applyRecoveredProjectionResolved
  else if event.commandId = "" ∨ event.agentId = "" then c
  else match c.applyRecoveredOwnershipEvent event with
    | some c => c
    | none => c.applyRecoveredCommandEvent event

/-- The projection that replaying `events` builds from an empty one. -/
def replay (events : List OmsJournalEvent) : Coordinator :=
  events.foldl applyRecoveredEvent {}

/-- Some command is left uncertain. -/
def uncertainRemains (c : Coordinator) : Prop :=
  ∃ key ∈ c.requests.keys, ∃ record ∈ c.requests.lookup key, record.status = .uncertain
deriving Decidable

def validateRecovered (c : Coordinator) : Coordinator :=
  if c.uncertainRemains ∧ !c.mutationBlocked then c.block recoveryReconcileRequired else c

/-- The coordinator that recovery builds from a journal it could read. -/
def recovered (events : List OmsJournalEvent) : Coordinator := (replay events).validateRecovered

end Coordinator

/-- How the read and the projection of the journal go. -/
structure RecoverIo where
  replay : OmsJournal.ReplayIo := {}
  /-- An allocation fails inside the projection. -/
  throws : Bool := false
deriving DecidableEq, Repr

namespace System

/-- `RecoverFromJournal` of a process without a generation store. Preflight reservations
survive `ResetRecoveryProjectionLocked`; there are none here. -/
def recoverFromJournal (s : System) (io : RecoverIo) : System × ControlResult :=
  if s.venueDispatchesInFlight ≠ 0 ∨ s.riskMutationDispatches ≠ ∅ ∨
      s.cancelPreflightsInFlight ≠ ∅ then
    (s, { ok := false, reason := "OMS_RECOVERY_DISPATCH_IN_FLIGHT" })
  else match s.journal.replay io.replay with
    | (none, journal) =>
      let reason := "OMS_REPLAY_FAILED"
      ({ s with toCoordinator := Coordinator.block {} reason, journal := journal },
        { ok := false, reason := reason })
    | (some events, journal) =>
      if io.throws then
        let reason := "OMS_RECOVERY_PROJECTION_FAILED"
        ({ s with toCoordinator := Coordinator.block {} reason, journal := journal },
          { ok := false, reason := reason })
      else
        let c := Coordinator.recovered events
        ({ s with toCoordinator := c, journal := journal },
          { ok := !c.mutationBlocked, reason := c.mutationBlockReason })

/-- The process ends in good order: `~OmsJournal` writes what waits. -/
def stop (s : System) : System where
  journal := (s.journal.flushQueued {}).2
  venueCalls := s.venueCalls
  acknowledged := s.acknowledged

/-- The process dies: its memory, its threads and every record that was not synced are gone. -/
def crash (s : System) : System where
  journal := s.journal.afterCrash
  venueCalls := s.venueCalls
  acknowledged := s.acknowledged

/-- A crash and the recovery of the next process. -/
def restart (s : System) (io : RecoverIo) : System × ControlResult := s.crash.recoverFromJournal io

end System

end Hepta
