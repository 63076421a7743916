import Hepta.Library.Map
import Hepta.Supervisor.Record

/-!
# The sessions of the tool host

`TradingToolHost` keeps the sessions by their tokens, the owners whose fence is pending, and the
reservations of WATCH transactions. A call that changes them holds the dispatch mutex throughout, so
that it is one step; what the rest of the system answers is an argument. `RevokeSessionWithReason`
and `ReapExpiredSessions` look up what they revoke before they take the mutex: each of their
revocations is a step. Rate windows, replays and decision leases are left out.
-/

namespace Hepta

inductive SessionEnvironment
  | watch
  | paper
  | liveReduceOnly
  | liveCapped
  | unknown
  deriving DecidableEq, Repr

structure TradingToolHostSessionBinding where
  token : Bytes := []
  peerUid : ℕ := 0
  environment : SessionEnvironment := .unknown
  agentId : Bytes := []
  sessionId : Bytes := []
  account : Bytes := []
  strategy : Bytes := []
  venue : Bytes := ascii "IB"
  /-- The domain that the execution context of the session names itself. -/
  contextExecutionDomain : Bytes := []
  executionDomain : Bytes := []
  capabilities : Finset Bytes := ∅
  expiresAtMs : ℕ := 0
  leaseGeneration : ℕ := 1
  enabled : Bool := true
  recoveryOnly : Bool := false
  deriving DecidableEq

/-- `SessionOwnerKey`: the two texts are told apart by the length of the first. -/
def sessionOwnerKey (agentId sessionId : Bytes) : Bytes :=
  decimal agentId.length ++ ascii ":" ++ agentId ++ sessionId

def TradingToolHostSessionBinding.sessionOwnerKey (b : TradingToolHostSessionBinding) : Bytes :=
  Hepta.sessionOwnerKey b.agentId b.sessionId

structure WatchTransactionReservation where
  ownerKey : Bytes
  tokens : List Bytes
  expectedBindings : List TradingToolHostSessionBinding

structure TradingToolHost where
  sessions : Dict Bytes TradingToolHostSessionBinding := ∅
  keyed : ∀ token b, sessions.lookup token = some b → b.token = token := by simp
  /-- `m_sessionIncarnations`: a registration of a token is told from another by its number. -/
  sessionIncarnations : Dict Bytes ℕ := ∅
  incarnated : ∀ token b, sessions.lookup token = some b →
    (sessionIncarnations.lookup token).isSome := by simp
  nextIncarnation : ℕ := 0
  pendingOwnerFences : Finset Bytes := ∅
  watchTransactions : Dict ℕ WatchTransactionReservation := ∅
  watchOwnerTransactions : Dict Bytes ℕ := ∅
  watchTokenTransactions : Dict Bytes ℕ := ∅
  nextWatchTransactionId : ℕ := 1

namespace TradingToolHost

variable (h : TradingToolHost)

/-! ### WATCH transactions -/

def watchTransactionAllows (watchTransactionId : Option ℕ) (ownerKey token : Bytes) : Bool :=
  match watchTransactionId with
  | none => false
  | some id =>
    (h.watchTransactions.lookup id).any (fun t => t.ownerKey = ownerKey && t.tokens.contains token) &&
      h.watchOwnerTransactions.lookup ownerKey = some id &&
      h.watchTokenTransactions.lookup token = some id

def watchTransactionPending (b : TradingToolHostSessionBinding) : Bool :=
  (h.watchOwnerTransactions.lookup b.sessionOwnerKey).isSome ||
    (h.watchTokenTransactions.lookup b.token).isSome

/-- `WatchBindingScopeEqual`, and the match that a rotation expects. -/
def sameWatchScope (left right : TradingToolHostSessionBinding) : Bool :=
  left.token = right.token && left.peerUid = right.peerUid &&
    left.leaseGeneration = right.leaseGeneration && left.environment = right.environment &&
    left.agentId = right.agentId && left.sessionId = right.sessionId

variable (expected : List TradingToolHostSessionBinding)

/-- `ValidateWatchTransactionBindings`: one or two bindings of one owner. -/
def validWatchBindings : Bool :=
  match expected with
  | [] => false
  | first :: _ =>
    expected.length ≤ 2 && expected.all fun b =>
      24 ≤ b.token.length && b.leaseGeneration ≠ 0 && b.agentId ≠ [] && b.sessionId ≠ [] &&
        b.environment = .watch && b.sessionOwnerKey = first.sessionOwnerKey

/-- `ValidateWatchReservationScopeLocked`. Each binding is matched with one of the reservation. -/
def sameReservationScope (t : WatchTransactionReservation)
    (expected : List TradingToolHostSessionBinding) : Bool :=
  validWatchBindings expected &&
    expected.all (fun b => b.sessionOwnerKey = t.ownerKey && t.tokens.contains b.token) &&
    t.tokens.all (fun token => (expected.map (·.token)).contains token) &&
    expected.length = t.expectedBindings.length &&
    (expected.foldl (fun left b => left.bind fun rest =>
      if rest.any (sameWatchScope b) then some (rest.eraseP (sameWatchScope b)) else none)
      (some t.expectedBindings)).isSome

/-- The transaction that holds the owner or one of the tokens, if they agree on one. -/
def existingWatchTransaction (ownerKey : Bytes) (tokens : List Bytes) : Option (Option ℕ) :=
  tokens.foldl (fun found token =>
    match found, h.watchTokenTransactions.lookup token with
    | some (some id), some id' => if id = id' then some (some id) else none
    | some none, some id => some (some id)
    | found, none => found
    | none, _ => none)
    (some (h.watchOwnerTransactions.lookup ownerKey))

def beginWatchTransaction : Option String × TradingToolHost :=
  if !validWatchBindings expected then (some "WATCH_TRANSACTION_BINDINGS_INVALID", h)
  else
    let ownerKey := (expected.headD {}).sessionOwnerKey
    let tokens := expected.map (·.token)
    match h.existingWatchTransaction ownerKey tokens with
    | none => (some "WATCH_TRANSACTION_RESERVATION_CONFLICT", h)
    | some (some id) =>
      if (h.watchTransactions.lookup id).any fun t => sameReservationScope t expected then (none, h)
      else (some "WATCH_TRANSACTION_RESERVATION_CONFLICT", h)
    | some none =>
      if h.nextWatchTransactionId = 0 then (some "WATCH_TRANSACTION_ID_EXHAUSTED", h)
      else
        let id := h.nextWatchTransactionId
        (none,
          { h with
            nextWatchTransactionId := (id + 1) % 2 ^ 64
            watchTransactions :=
              h.watchTransactions.insert id { ownerKey, tokens, expectedBindings := expected }
            watchOwnerTransactions := h.watchOwnerTransactions.insert ownerKey id
            watchTokenTransactions :=
              tokens.foldl (fun table token => table.insert token id) h.watchTokenTransactions })

def releaseWatchTransaction (id : ℕ) (expected : List TradingToolHostSessionBinding) :
    Option String × TradingToolHost :=
  if !validWatchBindings expected then (some "WATCH_TRANSACTION_RESERVATION_INVALID", h)
  else match h.watchTransactions.lookup id with
    | none => (some "WATCH_TRANSACTION_RESERVATION_NOT_FOUND", h)
    | some t =>
      if !sameReservationScope t expected then (some "WATCH_TRANSACTION_RESERVATION_MISMATCH", h)
      else
        (none,
          { h with
            watchTransactions := h.watchTransactions.erase id
            watchOwnerTransactions :=
              if h.watchOwnerTransactions.lookup t.ownerKey = some id then
                h.watchOwnerTransactions.erase t.ownerKey
              else h.watchOwnerTransactions
            watchTokenTransactions :=
              t.tokens.foldl (fun table token =>
                if table.lookup token = some id then table.erase token else table)
                h.watchTokenTransactions })

/-! ### Registrations -/

/-- A registration of a token is new. -/
def putSession (b : TradingToolHostSessionBinding) : TradingToolHost :=
  { h with
    sessions := h.sessions.insert b.token b
    keyed := by
      intro token b' hb'
      by_cases htoken : token = b.token
      · subst htoken
        rw [AList.lookup_insert] at hb'
        exact congrArg _ (Option.some.inj hb').symm
      · exact h.keyed token b' ((AList.lookup_insert_ne htoken).symm.trans hb')
    sessionIncarnations := h.sessionIncarnations.insert b.token h.nextIncarnation
    incarnated := by
      intro token b' hb'
      by_cases htoken : token = b.token
      · rw [htoken, AList.lookup_insert]
        rfl
      · rw [AList.lookup_insert_ne htoken] at hb' ⊢
        exact h.incarnated token b' hb'
    nextIncarnation := h.nextIncarnation + 1 }

variable (token : Bytes)

def eraseSession : TradingToolHost :=
  { h with
    sessions := h.sessions.erase token
    keyed := by
      intro token' b hb
      by_cases htoken : token' = token
      · subst htoken
        simp [AList.lookup_erase] at hb
      · exact h.keyed token' b ((AList.lookup_erase_ne htoken).symm.trans hb)
    sessionIncarnations := h.sessionIncarnations.erase token
    incarnated := by
      intro token' b hb
      by_cases htoken : token' = token
      · subst htoken
        simp [AList.lookup_erase] at hb
      · rw [AList.lookup_erase_ne htoken] at hb ⊢
        exact h.incarnated token' b hb }

def amendSession (enabled recoveryOnly : Bool) (expiresAtMs : ℕ) : TradingToolHost :=
  { h with
    sessions :=
      match h.sessions.lookup token with
      | none => h.sessions
      | some b => h.sessions.insert token { b with enabled, recoveryOnly, expiresAtMs }
    keyed := by
      intro token' b' hb'
      split at hb'
      · exact h.keyed token' b' hb'
      rename_i b hb
      by_cases htoken : token' = token
      · subst htoken
        rw [AList.lookup_insert] at hb'
        exact Option.some.inj hb' ▸ h.keyed token' b hb
      · exact h.keyed token' b' ((AList.lookup_insert_ne htoken).symm.trans hb')
    incarnated := by
      intro token' b' hb'
      split at hb'
      · exact h.incarnated token' b' hb'
      · rename_i b hb
        by_cases htoken : token' = token
        · exact htoken ▸ h.incarnated token b hb
        · exact h.incarnated token' b' ((AList.lookup_insert_ne htoken).symm.trans hb') }

def fenceOwner (key : Bytes) : TradingToolHost :=
  { h with pendingOwnerFences := insert key h.pendingOwnerFences }

def releaseOwner (key : Bytes) : TradingToolHost :=
  { h with pendingOwnerFences := h.pendingOwnerFences.erase key }

variable (b : TradingToolHostSessionBinding)

/-- The session `b`, registered under the token, stays registered but is disabled. -/
def disableSession : TradingToolHost :=
  h.amendSession token false b.recoveryOnly b.expiresAtMs

/-- What a registration depends on besides the host: the clock, `ValidateSessionTradePolicy` and the
contract catalog. -/
structure RegisterEnv where
  nowMs : ℕ
  tradePolicy : Option String := none
  catalog : Option String := none

def validateSessionShape (nowMs : ℕ) : Option String :=
  if b.token.length < 24 then some "SESSION_TOKEN_TOO_SHORT"
  else if b.agentId = [] ∨ b.sessionId = [] ∨ b.account = [] ∨ b.executionDomain = [] then
    some "INVALID_SESSION_IDENTITY"
  else if b.environment = .unknown then some "INVALID_SESSION_ENVIRONMENT"
  else if b.expiresAtMs ≤ nowMs then some "SESSION_ALREADY_EXPIRED"
  else if b.leaseGeneration = 0 then some "SESSION_LEASE_GENERATION_REQUIRED"
  else none

def registerSession (env : RegisterEnv) (b : TradingToolHostSessionBinding)
    (watchTransactionId : Option ℕ) : Option String × TradingToolHost :=
  match validateSessionShape b env.nowMs, env.tradePolicy with
  | some reason, _ => (some reason, h)
  | none, some reason => (some reason, h)
  | none, none =>
    let allowed := h.watchTransactionAllows watchTransactionId b.sessionOwnerKey b.token
    if (h.watchTokenTransactions.lookup b.token).isSome && !allowed then
      (some "SESSION_TOKEN_FENCE_PENDING", h)
    else if (h.watchOwnerTransactions.lookup b.sessionOwnerKey).isSome && !allowed then
      (some "SESSION_OWNER_FENCE_PENDING", h)
    else if watchTransactionId.any fun id =>
        !(h.watchTransactions.lookup id).any fun t => sameReservationScope t [b] then
      (some "WATCH_TRANSACTION_RESERVATION_MISMATCH", h)
    else if b.sessionOwnerKey ∈ h.pendingOwnerFences then (some "SESSION_OWNER_FENCE_PENDING", h)
    else if (h.sessions.lookup b.token).isSome then (some "SESSION_TOKEN_EXISTS", h)
    else match env.catalog with
      | some reason => (some reason, h)
      | none => (none, h.putSession b)

structure LeaseUpdate where
  currentToken : Bytes
  replacementToken : Bytes
  expectedGeneration : ℕ
  expiresAtMs : ℕ
  watchTransactionId : Option ℕ := none
  expectedCurrent : Option TradingToolHostSessionBinding := none
  resumeRecoveryOnly : Bool := false

/-- The transaction of the caller, if there is one, holds both tokens. -/
def watchAllowsUpdate (u : LeaseUpdate) (key : Bytes) : Option String :=
  let currentAllowed := h.watchTransactionAllows u.watchTransactionId key u.currentToken
  let replacementAllowed := h.watchTransactionAllows u.watchTransactionId key u.replacementToken
  if (h.watchTokenTransactions.lookup u.replacementToken).isSome && !replacementAllowed then
    some "SESSION_TOKEN_FENCE_PENDING"
  else if ((h.watchTokenTransactions.lookup u.currentToken).isSome ||
      (h.watchOwnerTransactions.lookup key).isSome) && !(currentAllowed && replacementAllowed) then
    some "SESSION_OWNER_FENCE_PENDING"
  else if u.watchTransactionId.isSome && !(currentAllowed && replacementAllowed) then
    some "WATCH_TRANSACTION_RESERVATION_MISMATCH"
  else none

def rotate (u : LeaseUpdate) (current : TradingToolHostSessionBinding) : TradingToolHost :=
  (h.eraseSession u.currentToken).putSession
    { current with
      token := u.replacementToken
      expiresAtMs := u.expiresAtMs
      leaseGeneration := u.expectedGeneration + 1
      recoveryOnly := current.recoveryOnly && !u.resumeRecoveryOnly }

def updateSessionLease (env : RegisterEnv) (u : LeaseUpdate) : Option String × TradingToolHost :=
  if u.currentToken = [] ∨ u.replacementToken.length < 24 ∨ u.expiresAtMs ≤ env.nowMs ∨
      u.expectedGeneration = 0 ∨ u.expectedGeneration = 2 ^ 64 - 1 then
    (some "INVALID_SESSION_LEASE_UPDATE", h)
  else match h.sessions.lookup u.currentToken with
    | none => (some "SESSION_NOT_FOUND", h)
    | some current =>
      if u.expectedCurrent.any fun expected => !sameWatchScope current expected then
        (some "WATCH_TRANSACTION_CURRENT_BINDING_MISMATCH",
          (h.disableSession u.currentToken current).fenceOwner current.sessionOwnerKey)
      else if current.leaseGeneration ≠ u.expectedGeneration then
        (some "SESSION_LEASE_GENERATION_MISMATCH", h)
      else if !current.enabled ∨ current.sessionOwnerKey ∈ h.pendingOwnerFences then
        (some "SESSION_OWNER_FENCE_PENDING", h)
      else match h.watchAllowsUpdate u current.sessionOwnerKey with
        | some reason => (some reason, h)
        | none =>
          if u.replacementToken ≠ u.currentToken ∧ (h.sessions.lookup u.replacementToken).isSome then
            (some "SESSION_TOKEN_EXISTS", h)
          else match env.catalog with
            | some reason => (some reason, h)
            | none => (none, h.rotate u current)

/-! ### Revocations -/

/-- Whom a revocation expects. -/
inductive RevokeExpectation
  | generation (expectedGeneration : ℕ)
  | owner (agentId sessionId : Bytes)
  deriving DecidableEq

/-- `RevokeSessionUnderDispatchLock`. The observer, if there is one, answers none when the remote fence
is confirmed. -/
def revokeSession (expected : RevokeExpectation) (watchTransactionId : Option ℕ)
    (observer : TradingToolHostSessionBinding → Option String) : Option String × TradingToolHost :=
  match h.sessions.lookup token with
  | none => (some "SESSION_NOT_FOUND", h)
  | some session =>
    let key := session.sessionOwnerKey
    if h.watchTransactionPending session && !h.watchTransactionAllows watchTransactionId key token then
      (some "SESSION_OWNER_FENCE_PENDING", h)
    else
      let mismatch :=
        match expected with
        | .owner agentId sessionId =>
          if session.agentId ≠ agentId ∨ session.sessionId ≠ sessionId then
            some "SESSION_OWNER_IDENTITY_MISMATCH"
          else none
        | .generation expectedGeneration =>
          if expectedGeneration = 0 ∨ session.leaseGeneration ≠ expectedGeneration then
            some "SESSION_LEASE_GENERATION_MISMATCH"
          else none
      match mismatch with
      | some reason => (some reason, h)
      | none =>
        match observer { session with enabled := false } with
        | some reason => (some reason, (h.disableSession token session).fenceOwner key)
        | none => (none, (h.eraseSession token).releaseOwner key)

def revokeCurrentSessionIfOwner (token agentId sessionId : Bytes)
    (observer : TradingToolHostSessionBinding → Option String) : Option String × TradingToolHost :=
  if agentId = [] ∨ sessionId = [] then (some "INVALID_SESSION_IDENTITY", h)
  else h.revokeSession token (.owner agentId sessionId) none observer

def revokeSessionWithReason (observer : TradingToolHostSessionBinding → Option String) :
    Option String × TradingToolHost :=
  match h.sessions.lookup token with
  | none => (some "SESSION_NOT_FOUND", h)
  | some session => h.revokeSession token (.generation session.leaseGeneration) none observer

def fenceRestoredSession (observer : TradingToolHostSessionBinding → Option String) :
    Option String × TradingToolHost :=
  if b.agentId = [] ∨ b.sessionId = [] then (some "INVALID_SESSION_IDENTITY", h)
  else match observer { b with enabled := false } with
    | some reason => (some reason, h.fenceOwner b.sessionOwnerKey)
    | none => (none, h.releaseOwner b.sessionOwnerKey)

def expiredTokens (nowMs : ℕ) : List Bytes :=
  h.sessions.keysWhere fun session => decide (session.expiresAtMs ≤ nowMs)

def reapExpiredSessions (nowMs : ℕ) (observer : TradingToolHostSessionBinding → Option String) :
    TradingToolHost :=
  (h.expiredTokens nowMs).foldl (fun h token => (h.revokeSessionWithReason token observer).2) h

/-- Why a session is not one that the transaction expects under the token. -/
def watchMismatch (session : TradingToolHostSessionBinding) : Option String :=
  let owners := expected.filter fun b =>
    b.token = token && session.agentId = b.agentId && session.sessionId = b.sessionId
  let peers := owners.filter fun b => session.peerUid = b.peerUid
  let environments := peers.filter fun b => session.environment = b.environment
  if environments.any fun b => session.leaseGeneration = b.leaseGeneration then none
  else if owners.isEmpty then some "SESSION_OWNER_IDENTITY_MISMATCH"
  else if peers.isEmpty then some "SESSION_PEER_UID_MISMATCH"
  else if environments.isEmpty then some "SESSION_ENVIRONMENT_MISMATCH"
  else some "SESSION_LEASE_GENERATION_MISMATCH"

/-- A session that a WATCH transaction did not expect: its token, itself and the reason. -/
abbrev Unexpected := Bytes × TradingToolHostSessionBinding × String

/-- The session of an expected token is a target if it is as expected. -/
def collectTarget (targets : List (Bytes × ℕ)) (token : Bytes) :
    Except Unexpected (List (Bytes × ℕ)) :=
  match h.sessions.lookup token with
  | none => .ok targets
  | some session =>
    match watchMismatch expected token session with
    | none => .ok (targets ++ [(session.token, session.leaseGeneration)])
    | some reason => .error (token, session, reason)

/-- `CollectWatchRevokeTargetsLocked`: the first session that is not as expected is fenced. -/
def collectWatchRevokeTargets (t : WatchTransactionReservation)
    (expected : List TradingToolHostSessionBinding) : Except Unexpected (List (Bytes × ℕ)) :=
  match h.sessions.entries.find? fun entry =>
      entry.2.sessionOwnerKey = t.ownerKey && !(expected.map (·.token)).contains entry.2.token with
  | some entry => .error (entry.1, entry.2, "SESSION_OWNER_IDENTITY_MISMATCH")
  | none =>
    (expected.map (·.token)).dedup.foldlM (h.collectTarget expected) []

/-- The targets are revoked one after the other, up to the first that is not. -/
def revokeTargets (id : ℕ) (observer : TradingToolHostSessionBinding → Option String)
    (h : TradingToolHost) : List (Bytes × ℕ) → Option String × TradingToolHost
  | [] => (none, h)
  | target :: rest =>
    match h.revokeSession target.1 (.generation target.2) (some id) observer with
    | (some reason, h) => (some reason, h)
    | (none, h) => revokeTargets id observer h rest

def revokeExactWatchTransaction (id : ℕ) (expected : List TradingToolHostSessionBinding)
    (observer : TradingToolHostSessionBinding → Option String) : Option String × TradingToolHost :=
  if !validWatchBindings expected then (some "WATCH_TRANSACTION_BINDINGS_INVALID", h)
  else match h.watchTransactions.lookup id with
    | none => (some "WATCH_TRANSACTION_RESERVATION_NOT_FOUND", h)
    | some t =>
      if !sameReservationScope t expected then (some "WATCH_TRANSACTION_EXPECTATION_INCOMPLETE", h)
      else match h.collectWatchRevokeTargets t expected with
        | .error (token, session, reason) =>
          (some reason, (h.disableSession token session).fenceOwner session.sessionOwnerKey)
        | .ok [] => (some "SESSION_NOT_FOUND", h)
        | .ok targets => revokeTargets id observer h targets

end TradingToolHost

end Hepta
