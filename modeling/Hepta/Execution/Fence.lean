import Hepta.Execution.Resolve

/-!
# Fences and order owners

Account, session, recovery-only, reconnect and terminal fences, and the operations that end
the ownership of an order (`execution_coordinator*.cpp`).
-/

namespace Hepta

namespace System

variable (S : Service)

/-- An event about an owner or an account rather than a command. -/
def controlEvent (tsMs : Int) (context : AgentExecutionContext) (eventType : EventType)
    (status reason riskCode : String) : OmsJournalEvent :=
  buildEvent tsMs context eventType (-1) "" "" .zero .zero status reason riskCode "" ""

variable (s : System)

def ownedOrders (p : ExecutionOrderOwner → Bool) : Finset Int :=
  s.orderOwners.keys.filter fun orderId => (s.orderOwners.lookup orderId).any p

def requestsWith (p : RequestRecord → Bool) : Finset String :=
  s.requests.keys.filter fun key => (s.requests.lookup key).any p

def riskMutationDispatchesForOwner (key : String) : Nat :=
  (s.riskMutationDispatches.keys.filter fun request =>
    (s.riskMutationDispatches.lookup request).any (·.ownerKey = key)).card

/-- The local evidence that `EnterAccountNewEntryFence` counts. -/
def accountOutstanding (account : String) : Nat :=
  (s.ownedOrders fun owner => owner.account = account || owner.account = "").card +
  (s.requestsWith fun record =>
    (record.context.account = account || record.context.account = "") &&
      record.status = .uncertain).card +
  s.venueDispatchesInFlight +
  (if s.riskMutationDispatches ≠ ∅ ∧ s.venueDispatchesInFlight = 0 then 1 else 0)

def acknowledgeAccountFence (account : String) : System × ControlResult :=
  let outstanding := s.accountOutstanding account
  ({ s with acknowledged := .account account :: s.acknowledged },
    { ok := true, count := outstanding
      reason := if outstanding ≠ 0 then "ACCOUNT_NEW_ENTRY_FENCE_INSTALLED_RISK_OUTSTANDING"
        else "ACCOUNT_NEW_ENTRY_FENCE_INSTALLED_NOT_STOP_PERMIT" })

/-- `EnterAccountNewEntryFence`: the fence is installed in memory before its record is
written, and a fence that is already there is reported without a record. -/
def enterAccountNewEntryFence (context : AgentExecutionContext) (io : Io) :
    System × ControlResult :=
  if context.agentId = "" ∨ context.sessionId = "" ∨ context.toolCallId = "" ∨
      context.account = "" then
    (s, { ok := false, reason := "ACCOUNT_NEW_ENTRY_FENCE_CONTEXT_INVALID" })
  else if context.account ∈ s.accountNewEntryFences then s.acknowledgeAccountFence context.account
  else
    let s := { s with
      accountNewEntryFences := insert context.account s.accountNewEntryFences }
    let event := controlEvent (io.clock 0) context .accountNewEntryFenced "fenced"
      "account-wide new-entry admission blocked" "ACCOUNT_NEW_ENTRY_FENCED"
    let failure := "OMS_ACCOUNT_NEW_ENTRY_FENCE_WRITE_FAILED"
    match s.appendOrBlock S event failure (io.file 0) with
    | (false, s) => (s, { ok := false, reason := failure })
    | (true, s)  => s.acknowledgeAccountFence context.account

/-! ### Session fences -/

variable (agentId sessionId : String)

/-- `FenceSessionOwner`, with the number of orders and dispatches of the owner. -/
def fenceSessionOwner (io : Io) : System × Nat :=
  let key := ownerKey agentId sessionId
  let active := fun (s : System) =>
    (s.ownedOrders fun owner => owner.agentId = agentId && owner.sessionId = sessionId).card +
      s.riskMutationDispatchesForOwner key
  if agentId = "" ∨ sessionId = "" then (s, 0)
  else if key ∈ s.fencedSessionOwners then (s, active s)
  else
    let s := { s with fencedSessionOwners := insert key s.fencedSessionOwners }
    let context : AgentExecutionContext :=
      { agentId := agentId, sessionId := sessionId
        toolCallId := "session-owner-fenced-" ++ toString (io.clock 0) }
    let event := controlEvent (io.clock 1) context .sessionOwnerFenced "fenced"
      "session revoked or expired" "SESSION_OWNER_FENCED"
    let (_, s) := s.appendOrBlock S event "OMS_SESSION_FENCE_JOURNAL_FAILED" (io.file 0)
    (s, active s)

def enterRecoveryOnlyOwner (ingressFence : UInt64) (io : Io) : System × ControlResult :=
  let key := ownerKey agentId sessionId
  let acknowledge := fun (s : System) =>
    ({ s with
      recoveryOnlySessionOwners := s.recoveryOnlySessionOwners.insert key ingressFence
      acknowledged := .recoveryOnly agentId sessionId ingressFence :: s.acknowledged },
      ({ ok := true } : ControlResult))
  if agentId = "" ∨ sessionId = "" ∨ ingressFence = 0 then
    (s, { ok := false, reason := "SESSION_RECOVERY_INGRESS_FENCE_INVALID" })
  else if (s.resumedRecoveryIngress.lookup key).any (ingressFence ≤ ·) ∨
      (s.recoveryOnlySessionOwners.lookup key).any (ingressFence < ·) then
    (s, { ok := false, reason := "SESSION_RECOVERY_INGRESS_FENCE_STALE" })
  else if s.recoveryOnlySessionOwners.lookup key = some ingressFence then acknowledge s
  else
    let context : AgentExecutionContext :=
      { agentId := agentId, sessionId := sessionId
        toolCallId := "session-owner-recovery-only-" ++ toString ingressFence.toNat }
    let event := controlEvent (io.clock 0) context .sessionOwnerRecoveryOnly
      (toString ingressFence.toNat) "root custodian blocked new entry" "SESSION_RECOVERY_ONLY"
    let failure := "OMS_SESSION_RECOVERY_FENCE_JOURNAL_FAILED"
    match s.appendOrBlock S event failure (io.file 0) with
    | (false, s) => (s, { ok := false, reason := failure })
    | (true, s)  => acknowledge s

/-- The checks of `AuditAndReleaseSessionOwnerFence`. -/
def releaseDefect (complete : Bool) (expectedFence : UInt64) : Option String :=
  let key := ownerKey agentId sessionId
  let recovery := s.recoveryOnlySessionOwners.lookup key
  if agentId = "" ∨ sessionId = "" then some "SESSION_OWNER_IDENTITY_REQUIRED"
  else if s.mutationBlocked ∨ s.paperTerminalFencePresent then
    some "SESSION_OWNER_RELEASE_MUTATION_BLOCKED"
  else if recovery.isSome ∧ (expectedFence = 0 ∨ recovery ≠ some expectedFence) then
    some "SESSION_OWNER_RECOVERY_ONLY_NOT_RESUMABLE"
  else if recovery = none ∧ expectedFence ≠ 0 then some "SESSION_OWNER_RECOVERY_INGRESS_CHANGED"
  else if recovery = none ∧ key ∉ s.fencedSessionOwners then some "SESSION_OWNER_NOT_FENCED"
  else if !complete then some "AUTHORITATIVE_OPEN_ORDERS_INCOMPLETE"
  else if s.riskMutationDispatchesForOwner key ≠ 0 then
    some "FENCED_OWNER_VENUE_DISPATCH_IN_FLIGHT"
  else if s.ownedOrders (fun owner =>
      owner.agentId = agentId && owner.sessionId = sessionId) ≠ ∅ then
    some "FENCED_OWNER_ACTIVE_ORDERS_REMAIN"
  else none

def auditAndReleaseSessionOwnerFence (complete : Bool) (expectedFence : UInt64) (io : Io) :
    System × ControlResult :=
  let key := ownerKey agentId sessionId
  match s.releaseDefect agentId sessionId complete expectedFence with
  | some reason => (s, { ok := false, reason := reason })
  | none =>
    let resumeRecovery := (s.recoveryOnlySessionOwners.lookup key).isSome
    let context : AgentExecutionContext :=
      { agentId := agentId, sessionId := sessionId
        toolCallId := "session-owner-fence-release-" ++ toString (io.clock 0) }
    let event := controlEvent (io.clock 1) context .sessionOwnerFenceRelease
      (if resumeRecovery then userRecoveryRelease expectedFence else "released")
      "authoritative open orders complete and owner has no active orders"
      "SESSION_OWNER_FENCE_RELEASED"
    let failure := "OMS_SESSION_FENCE_RELEASE_JOURNAL_FAILED"
    match s.appendOrBlock S event failure (io.file 0) with
    | (false, s) => (s, { ok := false, reason := failure })
    | (true, s) =>
      let s := if resumeRecovery then { s with
          resumedRecoveryIngress := s.resumedRecoveryIngress.insert key expectedFence
          recoveryOnlySessionOwners := s.recoveryOnlySessionOwners.erase key }
        else s
      ({ s with fencedSessionOwners := s.fencedSessionOwners.erase key }, { ok := true })

def brokerReconnectPending : String := "IB_PAPER_BROKER_RECONNECT_PENDING"

def beginBrokerReconnectFence : System × ControlResult :=
  if s.mutationBlocked then
    (s, { ok := false
          reason := if s.mutationBlockReason = "" then
            "IB_PAPER_BROKER_RECONNECT_COORDINATOR_BLOCKED" else s.mutationBlockReason })
  else if s.venueDispatchesInFlight ≠ 0 then
    (s, { ok := false, reason := "IB_PAPER_BROKER_RECONNECT_VENUE_DISPATCH_IN_FLIGHT" })
  else if s.orderOwners ≠ ∅ then
    (s, { ok := false, reason := "IB_PAPER_BROKER_RECONNECT_LOCAL_ORDERS_UNSAFE" })
  else (s.block brokerReconnectPending, { ok := true })

def endBrokerReconnectFence : System × ControlResult :=
  if !s.mutationBlocked ∨ s.mutationBlockReason ≠ brokerReconnectPending then
    (s, { ok := false
          reason := if s.mutationBlockReason = "" then "IB_PAPER_BROKER_RECONNECT_FENCE_MISSING"
            else s.mutationBlockReason })
  else (s.unblock, { ok := true })

/-! ### Terminal fence -/

def paperTerminalHalted : String := "IB_PAPER_TERMINAL_HALTED"

/-- The commands of the fenced owner that `EnterPaperTerminalFenceAndProject` projects. -/
def terminalCommands (owner : AgentExecutionContext) : Finset String :=
  s.requestsWith fun record =>
    record.durableMutationIntent && record.context.agentId = owner.agentId &&
    record.context.sessionId = owner.sessionId && record.context.account = owner.account &&
    record.context.executionDomain = owner.executionDomain

/-- The record check of `BuildPaperTerminalMutationUniverse`. -/
def terminalCommandValid (record : RequestRecord) : Bool :=
  isText record.context.agentId 128 && isText record.context.sessionId 128 &&
  isText record.context.toolCallId 128 && record.operation ≠ .unset &&
  (record.venueCorrelationId = "" || isText record.venueCorrelationId 192)

/-- The end of `EnterPaperTerminalFenceAndProject`; `hashed` tells whether the digests of the
projected commands came out. Equal commands are projected once, so none is a duplicate. -/
def projectTerminalCommands (owner : AgentExecutionContext) (hashed : Bool) :
    System × ControlResult :=
  if ∃ key ∈ s.terminalCommands owner,
      ∃ record ∈ s.requests.lookup key, terminalCommandValid record = false then
    (s, { ok := false, reason := "IB_PAPER_TERMINAL_MUTATION_RECORD_INVALID" })
  else if !hashed then
    (s, { ok := false, reason := "IB_PAPER_TERMINAL_MUTATION_UNIVERSE_HASH_FAILED" })
  else ({ s with acknowledged := .paperTerminal :: s.acknowledged }, { ok := true })

def terminalFenceEvent (tsMs : Int) (binding : PaperTerminalFenceBinding) : OmsJournalEvent :=
  buildEvent tsMs { binding.owner with toolCallId := binding.finalizationId } .paperTerminalFence
    (-1) "" "" .zero .zero (toString binding.recoveryIngressFence.toNat) binding.encode
    paperTerminalHalted binding.preliminaryReceiptSha256 binding.brokerSocketIdentitySha256

def haltPaperTerminal (binding : PaperTerminalFenceBinding) : System :=
  { s.block paperTerminalHalted with
    paperTerminalFencePresent := true
    paperTerminalFenceBinding := binding }

/-- `EnterPaperTerminalFenceAndProject` without a generation store. -/
def enterPaperTerminalFenceAndProject (binding : PaperTerminalFenceBinding) (hashed : Bool)
    (io : Io) : System × ControlResult :=
  if !binding.valid then
    (s, { ok := false, reason := "IB_PAPER_TERMINAL_FENCE_BINDING_INVALID" })
  else if s.venueDispatchesInFlight ≠ 0 then
    (s, { ok := false, reason := "IB_PAPER_TERMINAL_FENCE_VENUE_DISPATCH_IN_FLIGHT" })
  else if s.mutationBlocked then
    if s.mutationBlockReason = paperTerminalHalted ∧ s.paperTerminalFencePresent ∧
        s.paperTerminalFenceBinding.same binding then
      s.projectTerminalCommands binding.owner hashed
    else
      (s, { ok := false
            reason := if s.mutationBlockReason = paperTerminalHalted then
                "IB_PAPER_TERMINAL_FENCE_BINDING_MISMATCH"
              else if s.mutationBlockReason = "" then
                "IB_PAPER_TERMINAL_FENCE_COORDINATOR_BLOCKED"
              else s.mutationBlockReason })
  else if s.orderOwners ≠ ∅ then
    (s, { ok := false, reason := "IB_PAPER_TERMINAL_FENCE_LOCAL_ORDERS_UNSAFE" })
  else
    let failure := "OMS_PAPER_TERMINAL_FENCE_JOURNAL_FAILED"
    match s.appendOrBlock S (terminalFenceEvent (io.clock 0) binding) failure (io.file 0) with
    | (false, s) => (s, { ok := false, reason := failure })
    | (true, s) => (s.haltPaperTerminal binding).projectTerminalCommands binding.owner hashed

def resetMutationBlockAfterReconcile : System :=
  if s.mutationBlockReason = paperTerminalHalted then s else s.unblock

/-! ### Order owners -/

/-- `RecordOrderTerminal`: the owner goes without a record. -/
def recordOrderTerminal (orderId : Int) : System := s.eraseOwner orderId

/-- The record that ends the ownership of an order. -/
def ownerTerminalEvent (tsMs : Int) (orderId : Int) (owner : ExecutionOrderOwner)
    (toolCallId reason : String) : OmsJournalEvent :=
  buildEvent tsMs
    { agentId := owner.agentId, sessionId := owner.sessionId, toolCallId := toolCallId
      strategy := owner.strategy, account := owner.account
      executionDomain := owner.executionDomain }
    .orderOwnerReconciledTerminal orderId owner.instrument owner.side .zero .zero "terminal" reason
    "ORDER_OWNER_RECONCILED_TERMINAL" "" owner.venueCorrelationId

def ownerReconcileFailed : String := "OMS_OWNER_RECONCILE_JOURNAL_FAILED"

def recordOrderTerminalDurably (orderId : Int) (io : Io) : System × ControlResult :=
  match s.orderOwners.lookup orderId with
  | none => (s, { ok := true })
  | some owner =>
    let event := ownerTerminalEvent (io.clock 0) orderId owner
      ("order-terminal-" ++ toString orderId) "authoritative venue terminal callback"
    match s.appendOrBlock S event ownerReconcileFailed (io.file 0) with
    | (false, s) => (s, { ok := false, reason := ownerReconcileFailed })
    | (true, s)  => (s.eraseOwner orderId, { ok := true })

/-- The second loop of `ReconcileOrderOwners`, over the order ids that it collected. -/
def reconcileOwners (io : Io) : List Int → Nat → System → System × ControlResult
  | [], n, s => (s, { ok := true, count := n })
  | orderId :: orderIds, n, s =>
    match s.orderOwners.lookup orderId with
    | none => reconcileOwners io orderIds n s
    | some owner =>
      let event := ownerTerminalEvent (io.clock (2 * n + 1)) orderId owner
        ("order-owner-reconciled-" ++ toString orderId ++ "-" ++ toString (io.clock (2 * n)))
        "absent from complete authoritative active-order snapshot"
      match s.appendOrBlock S event ownerReconcileFailed (io.file n) with
      | (false, s) => (s, { ok := false, reason := ownerReconcileFailed, count := n })
      | (true, s)  => reconcileOwners io orderIds (n + 1) (s.eraseOwner orderId)

/-- `ReconcileOrderOwners`; `order` is the traversal of the owner map. -/
def reconcileOrderOwners (activeOrderIds : Finset Int) (complete : Bool) (order : List Int)
    (io : Io) : System × ControlResult :=
  if !complete then (s, { ok := false, reason := "AUTHORITATIVE_OPEN_ORDERS_INCOMPLETE" })
  else reconcileOwners S io (order.filter (· ∉ activeOrderIds)) 0 s

end System

end Hepta
