import Hepta.Supervisor.TerminalReceipt

/-!
# The lease store of the session supervisor

The store keeps the leases by their tokens and the acknowledgements of finalized groups by their ids,
each in the order of the keys. A call changes them, writes the whole store to its file, and takes the
change back if the file was not published.
-/

namespace Hepta

open Bytes LeaseCodec

structure SessionSupervisorLeaseStore where
  /-- `m_records`, in the order of the tokens. -/
  records : List SessionSupervisorLeaseRecord := []
  /-- `m_paperFinalizationAcks`, in the order of the finalization ids. -/
  acks : List SessionSupervisorPaperFinalizationAck := []
  /-- `m_sourceSize`, if `m_sourceMetadataValid`. -/
  sourceSize : Option ℕ := none
  persistenceIndeterminate : Bool := false
  deriving DecidableEq

namespace SessionSupervisorLeaseStore

/-! ### The file -/

def stateNumber : SessionSupervisorPaperFinalizationState → ℕ
  | .none => 0
  | .fencePending => 1
  | .fenceComplete => 2
  | .auditSealed => 3

def flag (b : Bool) : Bytes := decimal b.toNat

def tabbed (fields : List Bytes) : Bytes := [tab].intercalate fields ++ [newline]

def recordFields (r : SessionSupervisorLeaseRecord) : List Bytes :=
  [ascii "R", hexEncode r.templateId, hexEncode r.issuer, hexEncode r.token, hexEncode r.agentId,
    hexEncode r.sessionId, decimal r.peerUid, decimal r.expiresAtMs, decimal r.leaseGeneration,
    hexEncode r.predecessorToken, decimal r.predecessorGeneration, flag r.fencePending,
    flag r.fenceComplete, hexEncode r.fenceReason, flag r.recoveryOnly,
    hexEncode r.recoveryCommandId, flag r.paperFinalizationRequired, hexEncode r.ownerAccount,
    hexEncode r.ownerExecutionDomain, decimal (stateNumber r.paperFinalizationState),
    hexEncode r.recoveryId, hexEncode r.finalizationId, hexEncode r.expectedOwnerSetSha256,
    decimal r.expectedOwnerCount, hexEncode r.ownerTokenSha256,
    hexEncode r.finalizationReceiptSha256, hexEncode r.finalizationReceipt]

def ackFields (a : SessionSupervisorPaperFinalizationAck) : List Bytes :=
  [ascii "A", hexEncode a.recoveryId, hexEncode a.finalizationId,
    hexEncode a.expectedOwnerSetSha256, decimal a.expectedOwnerCount, hexEncode a.receiptSha256,
    hexEncode a.receipt, hexEncode a.terminalReceiptSha256, hexEncode a.terminalReceipt,
    hexEncode a.acknowledgingOwnerTokenSha256, decimal a.acknowledgingOwnerGeneration,
    hexEncode a.acknowledgingOwnerIssuer, hexEncode a.terminalizingOwnerAgentId,
    hexEncode a.terminalizingOwnerSessionId, hexEncode a.terminalizingOwnerAccount,
    hexEncode a.terminalizingOwnerExecutionDomain]

variable (s : SessionSupervisorLeaseStore)

def serializePlaintext : Bytes :=
  ascii "HSL8" ++ [newline] ++ (s.records.flatMap fun r => tabbed (recordFields r)) ++
    s.acks.flatMap fun a => tabbed (ackFields a)

/-- The size of the encrypted file: both the nonce and the tag, the header, the newlines, and the
ciphertext in hexadecimal digits. -/
def projectedEncodedBytes : ℕ := 64 + 2 * s.serializePlaintext.length

def kMaximumLeaseStoreBytes : ℕ := 2 * 1024 * 1024

def kLeaseStoreExitBaseReserveBytes : ℕ := 96 * 1024

def kLeaseStorePaperExitReserveBytes : ℕ := 20 * 1024

def isPaper (r : SessionSupervisorLeaseRecord) : Bool := r.templateId = ascii "paper"

def isWatch (r : SessionSupervisorLeaseRecord) : Bool := r.templateId = ascii "watch"

def paper : List SessionSupervisorLeaseRecord :=
  s.records.filter isPaper

/-- `CompleteCapacity`. -/
def exitReserveBytes (paperRecords : ℕ) : ℕ :=
  if (kMaximumLeaseStoreBytes - kLeaseStoreExitBaseReserveBytes) / kLeaseStorePaperExitReserveBytes <
      paperRecords then kMaximumLeaseStoreBytes
  else kLeaseStoreExitBaseReserveBytes + paperRecords * kLeaseStorePaperExitReserveBytes

def admissionLimit : ℕ :=
  kMaximumLeaseStoreBytes - exitReserveBytes s.paper.length

inductive PersistIntent
  | maintenance
  | admission
  deriving DecidableEq

/-- How the writing of a file of a fitting size ends. -/
inductive PersistOutcome
  | committed
  | notPublished (reason : String)
  | publishedIndeterminate (reason : String)
  deriving DecidableEq

/-- `PersistLocked`: the sizes are checked before anything is written. -/
def persist (s next : SessionSupervisorLeaseStore) (intent : PersistIntent)
    (outcome : PersistOutcome) : PersistOutcome :=
  let size := next.projectedEncodedBytes
  if kMaximumLeaseStoreBytes < size then .notPublished "LEASE_STORE_CAPACITY_EXHAUSTED"
  else if intent = .admission ∧ next.admissionLimit < size ∧ s.sourceSize.all (· < size) then
    .notPublished "LEASE_STORE_EXIT_RESERVE_REQUIRED"
  else outcome

/-- The change is kept unless the file was not published. -/
def commit (s next : SessionSupervisorLeaseStore) (intent : PersistIntent)
    (outcome : PersistOutcome) : Option String × SessionSupervisorLeaseStore :=
  match persist s next intent outcome with
  | .committed => (none, { next with sourceSize := some next.projectedEncodedBytes })
  | .notPublished reason => (some reason, s)
  | .publishedIndeterminate reason => (some reason, { next with persistenceIndeterminate := true })

/-! ### The calls -/

section

variable (sha256 : Bytes → Bytes) (s : SessionSupervisorLeaseStore)

def find (token : Bytes) : Option SessionSupervisorLeaseRecord :=
  s.records.find? fun r => r.token = token

def eraseRecord (token : Bytes) : SessionSupervisorLeaseStore :=
  { s with records := s.records.filter fun r => r.token ≠ token }

variable (r : SessionSupervisorLeaseRecord)

def putRecord : SessionSupervisorLeaseStore :=
  { s with
    records := (s.records.filter fun r' => r'.token ≠ r.token).orderedInsert
      (fun a b => Bytes.le a.token b.token) r }

def finalizing : Bool :=
  r.paperFinalizationRequired || r.paperFinalizationState ≠ .none

/-- A WATCH lease of the owner of the record is stored under another token than the given ones. -/
def watchOwnerExists (except : Option Bytes) : Bool :=
  isWatch r && s.records.any fun existing =>
    some existing.token ≠ except && isWatch existing && existing.agentId = r.agentId &&
      existing.sessionId = r.sessionId

def put (outcome : PersistOutcome) : Option String × SessionSupervisorLeaseStore :=
  if !validMutableLeaseRecord r || finalizing r then (some "LEASE_STORE_RECORD_INVALID", s)
  else if s.persistenceIndeterminate then (some "LEASE_STORE_PERSISTENCE_INDETERMINATE", s)
  else if isPaper r && retiredPaperOwner sha256 s.acks r.token then
    (some "LEASE_STORE_PAPER_FINALIZATION_OWNER_RETIRED", s)
  else if (s.find r.token).isSome then (some "LEASE_STORE_TOKEN_EXISTS", s)
  else if isPaper r && s.records.any fun existing => isPaper existing && finalizing existing then
    (some "LEASE_STORE_PAPER_FINALIZATION_IN_PROGRESS", s)
  else if s.watchOwnerExists r none then (some "LEASE_STORE_WATCH_OWNER_EXISTS", s)
  else s.commit (s.putRecord r)
    (if r.fencePending || r.recoveryOnly then .maintenance else .admission) outcome

def remove (token : Bytes) (outcome : PersistOutcome) : Option String × SessionSupervisorLeaseStore :=
  if s.persistenceIndeterminate then (some "LEASE_STORE_PERSISTENCE_INDETERMINATE", s)
  else match s.find token with
    | none => (some "LEASE_STORE_TOKEN_NOT_FOUND", s)
    | some found =>
      if finalizing found then (some "LEASE_STORE_PAPER_FINALIZATION_ACK_REQUIRED", s)
      else s.commit (s.eraseRecord token) .maintenance outcome

/-- The lease is leaving, so that the reserve may be used for it. -/
def exiting : Bool :=
  r.fencePending || r.fenceComplete || r.recoveryOnly || r.paperFinalizationRequired

def replace (currentToken : Bytes) (r : SessionSupervisorLeaseRecord) (outcome : PersistOutcome) :
    Option String × SessionSupervisorLeaseStore :=
  if !validMutableLeaseRecord r then (some "LEASE_STORE_RECORD_INVALID", s)
  else if s.persistenceIndeterminate then (some "LEASE_STORE_PERSISTENCE_INDETERMINATE", s)
  else match s.find currentToken with
    | none => (some "LEASE_STORE_TOKEN_NOT_FOUND", s)
    | some found =>
      if isPaper r && r.token ≠ currentToken && retiredPaperOwner sha256 s.acks r.token then
        (some "LEASE_STORE_PAPER_FINALIZATION_OWNER_RETIRED", s)
      else if found.paperFinalizationState ≠ .none ∨ r.paperFinalizationState ≠ .none then
        (some "LEASE_STORE_PAPER_FINALIZATION_REQUIRES_EXACT_API", s)
      else if found.paperFinalizationRequired && !r.paperFinalizationRequired then
        (some "LEASE_STORE_PAPER_FINALIZATION_DOWNGRADE_REJECTED", s)
      else if currentToken ≠ r.token ∧ (s.find r.token).isSome then
        (some "LEASE_STORE_TOKEN_EXISTS", s)
      else if s.watchOwnerExists r (some currentToken) then
        (some "LEASE_STORE_WATCH_OWNER_EXISTS", s)
      else s.commit ((s.eraseRecord currentToken).putRecord r)
        (if exiting found || exiting r then .maintenance else .admission) outcome

/-- Why the paper records do not fit the group that the replacement begins or continues. -/
def advanceMismatch (replacement existing : SessionSupervisorLeaseRecord) : Option String :=
  if !existing.paperFinalizationRequired then
    some "LEASE_STORE_PAPER_FINALIZATION_TRANSITION_REQUIRED"
  else if existing.ownerAccount ≠ replacement.ownerAccount ∨
      existing.ownerExecutionDomain ≠ replacement.ownerExecutionDomain then
    some "LEASE_STORE_PAPER_FINALIZATION_SCOPE_MISMATCH"
  else if existing.token ≠ replacement.token ∧ existing.paperFinalizationState ≠ .none ∧
      !sameFinalizationGroup existing replacement then
    some "LEASE_STORE_PAPER_FINALIZATION_GROUP_MISMATCH"
  else none

def checkOwnerSet (count : ℕ) (expected : Bytes) (otherwise : String) : Option String :=
  if s.paper.length ≠ count then some otherwise
  else match paperOwnerSetSha256 sha256 s.paper with
    | .error reason => some reason
    | .ok digest => if digest ≠ expected then some otherwise else none

def ackOf (finalizationId : Bytes) : Option SessionSupervisorPaperFinalizationAck :=
  s.acks.find? fun a => a.finalizationId = finalizationId

def advancePaperFinalization (token : Bytes)
    (expectedState : SessionSupervisorPaperFinalizationState)
    (replacement : SessionSupervisorLeaseRecord) (outcome : PersistOutcome) :
    Option String × SessionSupervisorLeaseStore :=
  let begins := expectedState = .none ∧ replacement.paperFinalizationState = .fencePending
  let completes :=
    expectedState = .fencePending ∧ replacement.paperFinalizationState = .fenceComplete
  if token ≠ replacement.token ∨ !replacement.paperFinalizationRequired ∨
      !validPaperFinalizationRecord replacement then
    (some "LEASE_STORE_PAPER_FINALIZATION_RECORD_INVALID", s)
  else if ¬begins ∧ ¬completes then
    (some "LEASE_STORE_PAPER_FINALIZATION_TRANSITION_INVALID", s)
  else if s.persistenceIndeterminate then (some "LEASE_STORE_PERSISTENCE_INDETERMINATE", s)
  else match s.find token with
    | none => (some "LEASE_STORE_TOKEN_NOT_FOUND", s)
    | some previous =>
      if previous.paperFinalizationState ≠ expectedState ∨ !sameLeaseFields previous replacement ∨
          (completes ∧ !sameFinalizationBinding previous replacement) then
        (some "LEASE_STORE_PAPER_FINALIZATION_BINDING_MISMATCH", s)
      else match s.paper.findSome? (advanceMismatch replacement) with
        | some reason => (some reason, s)
        | none =>
          match s.checkOwnerSet sha256 replacement.expectedOwnerCount
              replacement.expectedOwnerSetSha256
              "LEASE_STORE_PAPER_FINALIZATION_OWNER_SET_MISMATCH" with
          | some reason => (some reason, s)
          | none =>
            if (s.ackOf replacement.finalizationId).isSome then
              (some "LEASE_STORE_PAPER_FINALIZATION_OWNER_SET_MISMATCH", s)
            else if replacement.ownerTokenSha256 ≠
                prefixedSha256 sha256 (previous.token ++ [newline]) then
              (some "LEASE_STORE_PAPER_OWNER_TOKEN_IDENTITY_MISMATCH", s)
            else s.commit (s.putRecord replacement) .maintenance outcome

/-- The group that a seal names, and its receipt. -/
structure SealRequest where
  recoveryId : Bytes
  finalizationId : Bytes
  expectedOwnerSetSha256 : Bytes
  expectedOwnerCount : ℕ
  receiptSha256 : Bytes
  receipt : Bytes

def scopeMismatch (first r : SessionSupervisorLeaseRecord) : Bool :=
  r.ownerAccount ≠ first.ownerAccount || r.ownerExecutionDomain ≠ first.ownerExecutionDomain

def sealMismatch (first : SessionSupervisorLeaseRecord) (q : SealRequest)
    (r : SessionSupervisorLeaseRecord) : Option String :=
  if !r.paperFinalizationRequired then some "LEASE_STORE_PAPER_FINALIZATION_TRANSITION_REQUIRED"
  else if scopeMismatch first r then some "LEASE_STORE_PAPER_FINALIZATION_SCOPE_MISMATCH"
  else if r.recoveryId ≠ q.recoveryId ∨ r.finalizationId ≠ q.finalizationId ∨
      r.expectedOwnerSetSha256 ≠ q.expectedOwnerSetSha256 ∨
      r.expectedOwnerCount ≠ q.expectedOwnerCount ∨
      (r.paperFinalizationState ≠ .fenceComplete ∧ r.paperFinalizationState ≠ .auditSealed) then
    some "LEASE_STORE_PAPER_FINALIZATION_GROUP_MISMATCH"
  else none

/-- The records are sealed in their order; the loop stops at a paper record that is not complete, with
the ones before it sealed. -/
def sealRecords (q : SealRequest) :
    List SessionSupervisorLeaseRecord → Bool × List SessionSupervisorLeaseRecord
  | [] => (true, [])
  | r :: rest =>
    if !isPaper r then
      ((sealRecords q rest).1, r :: (sealRecords q rest).2)
    else if r.paperFinalizationState ≠ .fenceComplete then (false, r :: rest)
    else
      ((sealRecords q rest).1,
        { r with
          paperFinalizationState := .auditSealed
          finalizationReceiptSha256 := q.receiptSha256
          finalizationReceipt := q.receipt } :: (sealRecords q rest).2)

def validSealRequest (q : SealRequest) : Bool :=
  finalizationText q.recoveryId 128 && finalizationText q.finalizationId 128 &&
    isPrefixedSha256 q.expectedOwnerSetSha256 && q.expectedOwnerCount ≠ 0 &&
    q.expectedOwnerCount ≤ 4096 && isPrefixedSha256 q.receiptSha256 && q.receipt ≠ [] &&
    q.receipt.length ≤ 4096 && q.receiptSha256 = prefixedSha256 sha256 q.receipt

def sealPaperFinalizationGroup (q : SealRequest) (outcome : PersistOutcome) :
    Option String × SessionSupervisorLeaseStore :=
  let first := s.paper.headD {}
  if !validSealRequest sha256 q then
    (some "LEASE_STORE_PAPER_FINALIZATION_RECEIPT_INVALID", s)
  else if s.persistenceIndeterminate then (some "LEASE_STORE_PERSISTENCE_INDETERMINATE", s)
  else match s.paper.findSome? (sealMismatch first q) with
    | some reason => (some reason, s)
    | none =>
      match s.checkOwnerSet sha256 q.expectedOwnerCount q.expectedOwnerSetSha256
          "LEASE_STORE_PAPER_FINALIZATION_OWNER_SET_MISMATCH" with
      | some reason => (some reason, s)
      | none =>
        if !validPaperFinalizationReceipt sha256 q.receipt
            { recoveryId := q.recoveryId
              finalizationId := q.finalizationId
              expectedOwnerSetSha256 := q.expectedOwnerSetSha256
              expectedOwnerCount := q.expectedOwnerCount
              ownerAccount := first.ownerAccount
              ownerDomain := first.ownerExecutionDomain } then
          (some "LEASE_STORE_PAPER_FINALIZATION_OWNER_SET_MISMATCH", s)
        else if s.paper.all fun r => r.paperFinalizationState = .auditSealed then
          if s.paper.any fun r => r.finalizationReceiptSha256 ≠ q.receiptSha256 ||
              r.finalizationReceipt ≠ q.receipt then
            (some "LEASE_STORE_PAPER_FINALIZATION_RECEIPT_MISMATCH", s)
          else (none, s)
        else
          let sealed := { s with records := (sealRecords q s.records).2 }
          if !(sealRecords q s.records).1 then
            (some "LEASE_STORE_PAPER_FINALIZATION_PARTIAL_SEAL_INVALID", sealed)
          else s.commit sealed .maintenance outcome

structure SessionSupervisorTerminalAckRequest where
  recoveryId : Bytes
  finalizationId : Bytes
  expectedOwnerSetSha256 : Bytes
  expectedOwnerCount : ℕ
  receiptSha256 : Bytes
  terminalReceiptSha256 : Bytes
  terminalReceipt : Bytes
  ownerTokenSha256 : Bytes
  ownerGeneration : ℕ
  ownerIssuer : Bytes
  ownerAgentId : Bytes
  ownerSessionId : Bytes
  ownerAccount : Bytes
  ownerExecutionDomain : Bytes

variable (q : SessionSupervisorTerminalAckRequest)

def validAckRequest : Bool :=
  finalizationText q.recoveryId 128 && finalizationText q.finalizationId 128 &&
    isPrefixedSha256 q.expectedOwnerSetSha256 && q.expectedOwnerCount ≠ 0 &&
    q.expectedOwnerCount ≤ 4096 && isPrefixedSha256 q.receiptSha256 &&
    isPrefixedSha256 q.terminalReceiptSha256 && q.terminalReceipt ≠ [] &&
    q.terminalReceipt.length ≤ 12288 && isPrefixedSha256 q.ownerTokenSha256 &&
    q.ownerGeneration ≠ 0 && finalizationText q.ownerIssuer 128 &&
    finalizationText q.ownerAgentId 128 && finalizationText q.ownerSessionId 128 &&
    finalizationText q.ownerAccount 128 && finalizationText q.ownerExecutionDomain 128

/-- The acknowledgement that the request makes of a group with the receipt. -/
def createdAck (receipt : Bytes) : SessionSupervisorPaperFinalizationAck where
  recoveryId := q.recoveryId
  finalizationId := q.finalizationId
  expectedOwnerSetSha256 := q.expectedOwnerSetSha256
  expectedOwnerCount := q.expectedOwnerCount
  receiptSha256 := q.receiptSha256
  receipt := receipt
  terminalReceiptSha256 := q.terminalReceiptSha256
  terminalReceipt := q.terminalReceipt
  acknowledgingOwnerTokenSha256 := q.ownerTokenSha256
  acknowledgingOwnerGeneration := q.ownerGeneration
  acknowledgingOwnerIssuer := q.ownerIssuer
  terminalizingOwnerAgentId := q.ownerAgentId
  terminalizingOwnerSessionId := q.ownerSessionId
  terminalizingOwnerAccount := q.ownerAccount
  terminalizingOwnerExecutionDomain := q.ownerExecutionDomain

def isAcknowledgingOwner (r : SessionSupervisorLeaseRecord) : Bool :=
  r.ownerTokenSha256 = q.ownerTokenSha256 && r.leaseGeneration = q.ownerGeneration

def ackMismatch (first : SessionSupervisorLeaseRecord) (q : SessionSupervisorTerminalAckRequest)
    (receipt : Bytes) (r : SessionSupervisorLeaseRecord) : Option String :=
  if !r.paperFinalizationRequired then some "LEASE_STORE_PAPER_FINALIZATION_TRANSITION_REQUIRED"
  else if scopeMismatch first r then some "LEASE_STORE_PAPER_FINALIZATION_SCOPE_MISMATCH"
  else if r.paperFinalizationState ≠ .auditSealed ∨ r.recoveryId ≠ q.recoveryId ∨
      r.finalizationId ≠ q.finalizationId ∨
      r.expectedOwnerSetSha256 ≠ q.expectedOwnerSetSha256 ∨
      r.expectedOwnerCount ≠ q.expectedOwnerCount ∨
      r.finalizationReceiptSha256 ≠ q.receiptSha256 ∨
      (receipt ≠ [] ∧ receipt ≠ r.finalizationReceipt) then
    some "LEASE_STORE_PAPER_FINALIZATION_ACK_BINDING_MISMATCH"
  else if isAcknowledgingOwner q r ∧ (r.issuer ≠ q.ownerIssuer ∨ r.agentId ≠ q.ownerAgentId ∨
      r.sessionId ≠ q.ownerSessionId ∨ r.ownerAccount ≠ q.ownerAccount ∨
      r.ownerExecutionDomain ≠ q.ownerExecutionDomain) then
    some "LEASE_STORE_PAPER_TERMINAL_OWNER_BINDING_MISMATCH"
  else none

/-- The receipt of the group, as the loop over its records leaves it. -/
def groupReceipt (first : SessionSupervisorLeaseRecord) (q : SessionSupervisorTerminalAckRequest)
    (receipt : Bytes) : List SessionSupervisorLeaseRecord → Except String Bytes
  | [] => .ok receipt
  | r :: rest =>
    match ackMismatch first q receipt r with
    | some reason => .error reason
    | none => groupReceipt first q r.finalizationReceipt rest

def putAck (a : SessionSupervisorPaperFinalizationAck) : SessionSupervisorLeaseStore :=
  { s with
    acks := (s.acks.filter fun a' => a'.finalizationId ≠ a.finalizationId).orderedInsert
      (fun x y => Bytes.le x.finalizationId y.finalizationId) a }

def purgePaper : SessionSupervisorLeaseStore :=
  { s with records := s.records.filter fun r => !isPaper r }

/-- Why the acknowledgement of a group is not accepted. -/
def ackRefusal (first : SessionSupervisorLeaseRecord) (a : SessionSupervisorPaperFinalizationAck) :
    Option String :=
  if !validPaperFinalizationAck a then some "LEASE_STORE_PAPER_FINALIZATION_ACK_INVALID"
  else if !validPaperFinalizationReceipt sha256 a.receipt
      { recoveryId := a.recoveryId
        finalizationId := a.finalizationId
        expectedOwnerSetSha256 := a.expectedOwnerSetSha256
        expectedOwnerCount := a.expectedOwnerCount
        ownerAccount := first.ownerAccount
        ownerDomain := first.ownerExecutionDomain } then
    some "LEASE_STORE_PAPER_FINALIZATION_RECEIPT_INVALID"
  else if a.terminalReceiptSha256 ≠ prefixedSha256 sha256 a.terminalReceipt ∨
      !validPaperTerminalAckReceipt sha256 a ∨
      a.terminalizingOwnerAccount ≠ first.ownerAccount ∨
      a.terminalizingOwnerExecutionDomain ≠ first.ownerExecutionDomain then
    some "LEASE_STORE_PAPER_TERMINAL_ACK_RECEIPT_INVALID"
  else none

def acknowledgeAndPurgePaperFinalizationGroup (outcome : PersistOutcome) :
    Option String × SessionSupervisorLeaseStore :=
  let first := s.paper.headD {}
  if !validAckRequest q then (some "LEASE_STORE_PAPER_FINALIZATION_ACK_INVALID", s)
  else if s.persistenceIndeterminate then (some "LEASE_STORE_PERSISTENCE_INDETERMINATE", s)
  else match s.ackOf q.finalizationId with
    | some existing =>
      if existing ≠ createdAck q existing.receipt then
        (some "LEASE_STORE_PAPER_FINALIZATION_ACK_BINDING_MISMATCH", s)
      else (none, s)
    | none =>
      match groupReceipt first q [] s.paper with
      | .error reason => (some reason, s)
      | .ok receipt =>
        if !s.paper.any (isAcknowledgingOwner q) then
          (some "LEASE_STORE_PAPER_FINALIZATION_ACK_BINDING_MISMATCH", s)
        else match s.checkOwnerSet sha256 q.expectedOwnerCount q.expectedOwnerSetSha256
            "LEASE_STORE_PAPER_FINALIZATION_ACK_BINDING_MISMATCH" with
          | some reason => (some reason, s)
          | none =>
            if receipt = [] then (some "LEASE_STORE_PAPER_FINALIZATION_ACK_BINDING_MISMATCH", s)
            else match ackRefusal sha256 first (createdAck q receipt) with
              | some reason => (some reason, s)
              | none =>
                s.commit (s.purgePaper.putAck (createdAck q receipt)) .maintenance outcome

inductive Call where
  | put (r : SessionSupervisorLeaseRecord) (outcome : PersistOutcome)
  | remove (token : Bytes) (outcome : PersistOutcome)
  | replace (currentToken : Bytes) (r : SessionSupervisorLeaseRecord) (outcome : PersistOutcome)
  | advance (token : Bytes) (expectedState : SessionSupervisorPaperFinalizationState)
      (replacement : SessionSupervisorLeaseRecord) (outcome : PersistOutcome)
  | sealGroup (q : SealRequest) (outcome : PersistOutcome)
  | acknowledge (q : SessionSupervisorTerminalAckRequest) (outcome : PersistOutcome)

def perform : Call → Option String × SessionSupervisorLeaseStore
  | .put r outcome => s.put sha256 r outcome
  | .remove token outcome => s.remove token outcome
  | .replace currentToken r outcome => s.replace sha256 currentToken r outcome
  | .advance token expectedState replacement outcome =>
    s.advancePaperFinalization sha256 token expectedState replacement outcome
  | .sealGroup q outcome => s.sealPaperFinalizationGroup sha256 q outcome
  | .acknowledge q outcome => s.acknowledgeAndPurgePaperFinalizationGroup sha256 q outcome

def step (call : Call) : SessionSupervisorLeaseStore := (s.perform sha256 call).2

end

end SessionSupervisorLeaseStore

end Hepta
