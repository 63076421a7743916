import Hepta.ToolHost.Sessions

/-!
# The calls of the tool host

Recovery and finalization of the owners of paper sessions, and the two ways a tool call is dispatched.
A finalized owner is kept as a tombstone: its session stays registered but disabled, and its owner is
fenced.
-/

namespace Hepta

namespace TradingToolHost

variable (h : TradingToolHost)

/-! ### Recovery -/

/-- What the rest of the system answers to a recovery call: the control authority with its audit of
the owner and its fence, the lease store and the contract catalog. None means accepted. -/
structure RecoveryEnv where
  authority : Bool := true
  audit : Option String := none
  fence : Option String := none
  store : Option String := none
  catalog : Option String := none
  tradePolicy : Option String := none

def bindingMatchesRecord (b : TradingToolHostSessionBinding) (r : SessionSupervisorLeaseRecord) : Bool :=
  b.token = r.token && b.leaseGeneration = r.leaseGeneration && b.agentId = r.agentId &&
    b.sessionId = r.sessionId && b.account = r.ownerAccount &&
    b.executionDomain = r.ownerExecutionDomain && r.templateId = ascii "paper"

variable (env : RecoveryEnv)

/-- `EnterRecoveryOnlyAndQuery` up to the query, which changes nothing: the lease becomes recovery-only
in the store and then in the host. -/
def enterRecoveryOnly (token : Bytes) (expectedGeneration : ℕ)
    (targetCommandId : Bytes) (ownerAudit : Bool) (r : SessionSupervisorLeaseRecord)
    (recoveryExpiresAtMs : ℕ) : Option String × TradingToolHost :=
  if token = [] ∨ expectedGeneration = 0 ∨ (!ownerAudit ∧ targetCommandId = []) ∨
      128 < targetCommandId.length then (some "SESSION_RECOVERY_QUERY_INVALID", h)
  else match h.sessions.lookup token with
    | none => (some "SESSION_NOT_FOUND", h)
    | some session =>
      if session.leaseGeneration ≠ expectedGeneration then
        (some "SESSION_LEASE_GENERATION_MISMATCH", h)
      else if !session.enabled ∨ session.sessionOwnerKey ∈ h.pendingOwnerFences ∨
          h.watchTransactionPending session then (some "SESSION_OWNER_FENCE_PENDING", h)
      else if !bindingMatchesRecord session r then
        (some "SESSION_RECOVERY_FENCE_BINDING_MISMATCH", h)
      else match env.store with
        | some reason => (some reason, h)
        | none =>
          (if env.authority then none else some "SESSION_RECOVERY_QUERY_UNAVAILABLE",
            h.amendSession token session.enabled true (max session.expiresAtMs recoveryExpiresAtMs))

/-- The record is the durable form of the session. -/
def recordOwns (b : TradingToolHostSessionBinding) (r : SessionSupervisorLeaseRecord) : Bool :=
  r.agentId = b.agentId && r.sessionId = b.sessionId && r.ownerAccount = b.account &&
    r.ownerExecutionDomain = b.executionDomain

def finalizeRecoveryOnlyOwner (token : Bytes) (expectedGeneration : ℕ)
    (r : SessionSupervisorLeaseRecord) : Option String × TradingToolHost :=
  match h.sessions.lookup token with
  | none => (some "SESSION_LEASE_GENERATION_MISMATCH", h)
  | some session =>
    if session.leaseGeneration ≠ expectedGeneration then
      (some "SESSION_LEASE_GENERATION_MISMATCH", h)
    else if !env.authority then (some "SESSION_RECOVERY_QUERY_UNAVAILABLE", h)
    else if !session.enabled ∨ !session.recoveryOnly ∨ session.environment ≠ .paper ∨
        r.templateId ≠ ascii "paper" ∨ !r.recoveryOnly ∨ r.fencePending ∨
        r.paperFinalizationRequired ∨ r.paperFinalizationState ≠ .none ∨ r.token ≠ token ∨
        r.leaseGeneration ≠ expectedGeneration ∨ !recordOwns session r then
      (some (if r.paperFinalizationRequired then "PAPER_FINALIZATION_OPERATION_REQUIRED"
        else "SESSION_RECOVERY_FINALIZE_BINDING_MISMATCH"), h)
    else match env.audit, env.fence with
      | some reason, _ => (some reason, h)
      | none, some reason => (some reason, h)
      | none, none => (env.catalog, h.eraseSession token)

def fenceRecoveryOnlyOwner (token : Bytes) (expectedGeneration : ℕ)
    (r : SessionSupervisorLeaseRecord) : Option String × TradingToolHost :=
  if !env.authority then (some "SESSION_RECOVERY_QUERY_UNAVAILABLE", h)
  else match h.sessions.lookup token with
    | none => (some "SESSION_FINALIZATION_TOMBSTONE_REQUIRED", h)
    | some session =>
      if r.templateId ≠ ascii "paper" ∨ !r.recoveryOnly ∨ !r.paperFinalizationRequired ∨
          r.fencePending ∨ r.fenceComplete ∨ r.paperFinalizationState ≠ .fencePending ∨
          r.token ≠ token ∨ r.leaseGeneration ≠ expectedGeneration ∨ r.agentId = [] ∨
          r.sessionId = [] ∨ r.ownerAccount = [] ∨ r.ownerExecutionDomain = [] ∨
          !session.recoveryOnly ∨ session.environment ≠ .paper ∨
          session.leaseGeneration ≠ expectedGeneration ∨ !recordOwns session r then
        (some "SESSION_RECOVERY_FINALIZE_BINDING_MISMATCH", h)
      else match env.fence with
        | some reason => (some reason, h)
        | none =>
          (none, (h.amendSession token false true session.expiresAtMs).fenceOwner
            session.sessionOwnerKey)

def restorePaperFinalizationTombstone (b : TradingToolHostSessionBinding)
    (r : SessionSupervisorLeaseRecord) : Option String × TradingToolHost :=
  if r.templateId ≠ ascii "paper" ∨ !r.recoveryOnly ∨ !r.paperFinalizationRequired ∨
      r.paperFinalizationState = .none ∨ b.token ≠ r.token ∨
      b.leaseGeneration ≠ r.leaseGeneration ∨ b.peerUid ≠ r.peerUid ∨ b.environment ≠ .paper ∨
      !recordOwns b r then (some "SESSION_FINALIZATION_TOMBSTONE_BINDING_MISMATCH", h)
  else match env.tradePolicy with
    | some reason => (some reason, h)
    | none =>
      if (h.sessions.lookup b.token).isSome then (some "SESSION_TOKEN_EXISTS", h)
      else match env.catalog with
        | some reason => (some reason, h)
        | none =>
          let tombstone := { b with enabled := false, recoveryOnly := true, expiresAtMs := r.expiresAtMs }
          (none, (h.putSession tombstone).fenceOwner tombstone.sessionOwnerKey)

def purgeFinalizedRecoveryOwner (r : SessionSupervisorLeaseRecord) :
    Option String × TradingToolHost :=
  if r.templateId ≠ ascii "paper" ∨ !r.recoveryOnly ∨ !r.paperFinalizationRequired ∨
      r.paperFinalizationState ≠ .auditSealed ∨ r.leaseGeneration = 0 ∨ r.agentId = [] ∨
      r.sessionId = [] then (some "SESSION_RECOVERY_FINALIZE_BINDING_MISMATCH", h)
  else if (h.sessions.lookup r.token).any fun session =>
      session.leaseGeneration ≠ r.leaseGeneration || !recordOwns session r then
    (some "SESSION_RECOVERY_FINALIZE_LOCAL_BINDING_MISMATCH", h)
  else match env.catalog with
    | some reason => (some reason, h)
    | none => (none, (h.eraseSession r.token).releaseOwner (sessionOwnerKey r.agentId r.sessionId))

/-- `UpdatePaperSessionLeaseAfterAudit`. The audit and the release of the remote fence are answered by
the authority. -/
def updatePaperSessionLeaseAfterAudit (register : RegisterEnv) (u : LeaseUpdate) :
    Option String × TradingToolHost :=
  match h.sessions.lookup u.currentToken with
  | none => (some "SESSION_LEASE_GENERATION_MISMATCH", h)
  | some session =>
    if session.leaseGeneration ≠ u.expectedGeneration then
      (some "SESSION_LEASE_GENERATION_MISMATCH", h)
    else if !env.authority then (some "SESSION_RECOVERY_QUERY_UNAVAILABLE", h)
    else if session.environment ≠ .paper ∨ !session.enabled ∨
        (session.recoveryOnly ∧ !u.resumeRecoveryOnly) then
      (some "SESSION_OWNER_RECOVERY_REQUIRED", h)
    else match env.audit, if u.resumeRecoveryOnly then env.fence else none with
      | some reason, _ => (some reason, h)
      | none, some reason => (some reason, h)
      | none, none =>
        h.updateSessionLease register { u with watchTransactionId := none, expectedCurrent := none }

/-! ### Tool calls -/

structure ToolRequest where
  peerUid : ℕ
  sessionToken : Bytes
  toolCallId : Bytes
  tool : Bytes

/-- What `AuthorizeCommon` reads besides the sessions: the clock and the descriptor of the tool. -/
structure ToolEnv where
  nowMs : ℕ
  known : Bool := true
  /-- The effect of the tool is a trade. -/
  trade : Bool
  requiredCapability : Bytes
  /-- Why the expected schema hash of the request is not accepted. -/
  schema : Option String := none

/-- `AuthorizeCommon`: the binding that the request is authorized for. An expired session is revoked,
under the dispatch mutex, which the checks before do not hold. -/
def authorizeCommon (env : ToolEnv) (request : ToolRequest)
    (observer : TradingToolHostSessionBinding → Option String) :
    Except String TradingToolHostSessionBinding × TradingToolHost :=
  if request.toolCallId = [] then (.error "TOOL_CALL_ID_REQUIRED", h)
  else match h.sessions.lookup request.sessionToken with
    | none => (.error "SESSION_NOT_FOUND", h)
    | some session =>
      if h.watchTransactionPending session then (.error "SESSION_OWNER_FENCE_PENDING", h)
      else if !session.enabled then (.error "SESSION_DISABLED", h)
      else if session.peerUid ≠ request.peerUid then (.error "PEER_UID_MISMATCH", h)
      else if session.expiresAtMs ≤ env.nowMs then
        (.error "SESSION_EXPIRED", (h.revokeSessionWithReason request.sessionToken observer).2)
      else if !env.known then (.error "UNKNOWN_TOOL", h)
      else if env.trade ∧ session.environment = .watch then (.error "WATCH_SESSION_CANNOT_TRADE", h)
      else if env.requiredCapability ∉ session.capabilities then (.error "CAPABILITY_REQUIRED", h)
      else match env.schema with
        | some reason => (.error reason, h)
        | none => (.ok session, h)

/-- The checks that `DispatchMutation` makes under the dispatch mutex before it invokes the tool. -/
def dispatchMutation (nowMs : ℕ) (tool token : Bytes) (binding : TradingToolHostSessionBinding) :
    Option String :=
  match h.sessions.lookup token with
  | none => some "SESSION_REVOKED"
  | some current =>
    if current.leaseGeneration ≠ binding.leaseGeneration then some "SESSION_LEASE_GENERATION_CHANGED"
    else if !current.enabled ∨ current.sessionOwnerKey ∈ h.pendingOwnerFences ∨
        h.watchTransactionPending current then some "SESSION_OWNER_FENCE_PENDING"
    else if current.recoveryOnly ∧ tool = ascii "trade.place_order" then some "SESSION_RECOVERY_ONLY"
    else if current.expiresAtMs ≤ nowMs then some "SESSION_EXPIRED"
    else none

def sameEventWaitScope (left right : TradingToolHostSessionBinding) : Bool :=
  left.token = right.token && left.peerUid = right.peerUid &&
    left.executionDomain = right.executionDomain && left.environment = right.environment &&
    left.capabilities = right.capabilities && left.agentId = right.agentId &&
    left.sessionId = right.sessionId && left.strategy = right.strategy &&
    left.account = right.account && left.venue = right.venue &&
    left.contextExecutionDomain = right.contextExecutionDomain

/-- The checks that `DispatchRead` makes under the dispatch mutex before it invokes the tool; an event
wait is given the registration it is dispatched under. -/
def dispatchRead (nowMs : ℕ) (tool token : Bytes) (binding : TradingToolHostSessionBinding) :
    Except String (Option ℕ) :=
  match h.sessions.lookup token with
  | none => .error "SESSION_REVOKED"
  | some current =>
    if current.leaseGeneration ≠ binding.leaseGeneration then .error "SESSION_LEASE_GENERATION_CHANGED"
    else if !current.enabled ∨ current.sessionOwnerKey ∈ h.pendingOwnerFences ∨
        h.watchTransactionPending current then .error "SESSION_OWNER_FENCE_PENDING"
    else if current.expiresAtMs ≤ nowMs then .error "SESSION_EXPIRED"
    else if tool = ascii "events.wait" then
      match h.sessionIncarnations.lookup token with
      | none => .error "SESSION_BINDING_CHANGED"
      | some incarnation =>
        if !sameEventWaitScope current binding ∨ ascii "events.read" ∉ current.capabilities then
          .error "SESSION_BINDING_CHANGED"
        else .ok (some incarnation)
    else if current.recoveryOnly ∧ tool = ascii "risk.preview_order" then .error "SESSION_RECOVERY_ONLY"
    else .ok none

/-- The checks that `DispatchRead` makes after an event wait. -/
def recheckEventWait (nowMs : ℕ) (token : Bytes) (binding : TradingToolHostSessionBinding)
    (incarnation : ℕ) : Option String :=
  match h.sessions.lookup token with
  | none => some "SESSION_REVOKED"
  | some current =>
    if current.leaseGeneration ≠ binding.leaseGeneration then some "SESSION_LEASE_GENERATION_CHANGED"
    else if h.sessionIncarnations.lookup token ≠ some incarnation ∨
        !sameEventWaitScope current binding ∨
        ascii "events.read" ∉ current.capabilities then some "SESSION_BINDING_CHANGED"
    else if !current.enabled ∨ current.sessionOwnerKey ∈ h.pendingOwnerFences ∨
        h.watchTransactionPending current then some "SESSION_OWNER_FENCE_PENDING"
    else if current.expiresAtMs ≤ nowMs then some "SESSION_EXPIRED"
    else none

/-! ### Runs -/

/-- A call of the host, or one of the checks that let a tool call pass under the dispatch mutex. -/
inductive Call where
  | registerSession (env : RegisterEnv) (b : TradingToolHostSessionBinding)
      (watchTransactionId : Option ℕ)
  | updateSessionLease (env : RegisterEnv) (u : LeaseUpdate)
  | updatePaperSessionLeaseAfterAudit (env : RecoveryEnv) (register : RegisterEnv) (u : LeaseUpdate)
  | revokeSession (token : Bytes) (expectedGeneration : ℕ)
      (observer : TradingToolHostSessionBinding → Option String)
  | revokeCurrentSessionIfOwner (token agentId sessionId : Bytes)
      (observer : TradingToolHostSessionBinding → Option String)
  | revokeSessionWithReason (token : Bytes)
      (observer : TradingToolHostSessionBinding → Option String)
  | reapExpiredSessions (nowMs : ℕ) (observer : TradingToolHostSessionBinding → Option String)
  | fenceRestoredSession (b : TradingToolHostSessionBinding)
      (observer : TradingToolHostSessionBinding → Option String)
  | enterRecoveryOnly (env : RecoveryEnv) (token : Bytes) (expectedGeneration : ℕ)
      (targetCommandId : Bytes) (ownerAudit : Bool) (r : SessionSupervisorLeaseRecord)
      (recoveryExpiresAtMs : ℕ)
  | finalizeRecoveryOnlyOwner (env : RecoveryEnv) (token : Bytes) (expectedGeneration : ℕ)
      (r : SessionSupervisorLeaseRecord)
  | fenceRecoveryOnlyOwner (env : RecoveryEnv) (token : Bytes) (expectedGeneration : ℕ)
      (r : SessionSupervisorLeaseRecord)
  | restorePaperFinalizationTombstone (env : RecoveryEnv) (b : TradingToolHostSessionBinding)
      (r : SessionSupervisorLeaseRecord)
  | purgeFinalizedRecoveryOwner (env : RecoveryEnv) (r : SessionSupervisorLeaseRecord)
  | beginWatchTransaction (expected : List TradingToolHostSessionBinding)
  | releaseWatchTransaction (id : ℕ) (expected : List TradingToolHostSessionBinding)
  | revokeExactWatchTransaction (id : ℕ) (expected : List TradingToolHostSessionBinding)
      (observer : TradingToolHostSessionBinding → Option String)
  | authorizeCommon (env : ToolEnv) (request : ToolRequest)
      (observer : TradingToolHostSessionBinding → Option String)
  | dispatchMutation (nowMs : ℕ) (tool token : Bytes) (binding : TradingToolHostSessionBinding)
  | dispatchRead (nowMs : ℕ) (tool token : Bytes) (binding : TradingToolHostSessionBinding)
  | recheckEventWait (nowMs : ℕ) (token : Bytes) (binding : TradingToolHostSessionBinding)
      (incarnation : ℕ)

/-- The result of a call, none if it was accepted, and the host after it. -/
def perform : Call → Option String × TradingToolHost
  | .registerSession env b watchTransactionId => h.registerSession env b watchTransactionId
  | .updateSessionLease env u => h.updateSessionLease env u
  | .updatePaperSessionLeaseAfterAudit env register u =>
    h.updatePaperSessionLeaseAfterAudit env register u
  | .revokeSession token expectedGeneration observer =>
    h.revokeSession token (.generation expectedGeneration) none observer
  | .revokeCurrentSessionIfOwner token agentId sessionId observer =>
    h.revokeCurrentSessionIfOwner token agentId sessionId observer
  | .revokeSessionWithReason token observer => h.revokeSessionWithReason token observer
  | .reapExpiredSessions nowMs observer => (none, h.reapExpiredSessions nowMs observer)
  | .fenceRestoredSession b observer => h.fenceRestoredSession b observer
  | .enterRecoveryOnly env token expectedGeneration targetCommandId ownerAudit r recoveryExpiresAtMs =>
    h.enterRecoveryOnly env token expectedGeneration targetCommandId ownerAudit r recoveryExpiresAtMs
  | .finalizeRecoveryOnlyOwner env token expectedGeneration r =>
    h.finalizeRecoveryOnlyOwner env token expectedGeneration r
  | .fenceRecoveryOnlyOwner env token expectedGeneration r =>
    h.fenceRecoveryOnlyOwner env token expectedGeneration r
  | .restorePaperFinalizationTombstone env b r => h.restorePaperFinalizationTombstone env b r
  | .purgeFinalizedRecoveryOwner env r => h.purgeFinalizedRecoveryOwner env r
  | .beginWatchTransaction expected => h.beginWatchTransaction expected
  | .releaseWatchTransaction id expected => h.releaseWatchTransaction id expected
  | .revokeExactWatchTransaction id expected observer =>
    h.revokeExactWatchTransaction id expected observer
  | .authorizeCommon env request observer =>
    match h.authorizeCommon env request observer with
    | (.ok _, h) => (none, h)
    | (.error reason, h) => (some reason, h)
  | .dispatchMutation nowMs tool token binding => (h.dispatchMutation nowMs tool token binding, h)
  | .dispatchRead nowMs tool token binding =>
    match h.dispatchRead nowMs tool token binding with
    | .ok _ => (none, h)
    | .error reason => (some reason, h)
  | .recheckEventWait nowMs token binding incarnation =>
    (h.recheckEventWait nowMs token binding incarnation, h)

def step (call : Call) : TradingToolHost := (h.perform call).2

end TradingToolHost

end Hepta
