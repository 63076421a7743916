import Hepta.Supervisor.LeaseStore

/-!
# Reading the lease store

`ParsePlaintext` of the codec: the rows of a file of any version, each with its own checks, and then
the checks of the whole store. The reading for a terminal cleanup is left out.
-/

namespace Hepta

open Bytes LeaseCodec

namespace LeaseCodec

/-! ### Fields -/

def isSpace (c : UInt8) : Bool := c.toNat = 32 || (9 ≤ c.toNat && c.toNat ≤ 13)

/-- `ParseUnsigned`, with all that `strtoull` accepts: blanks and a sign in front, a minus being taken
modulo `2 ^ 64`. The C string ends at a zero byte. -/
def parseUnsigned (s : Bytes) (maximum : ℕ) : Option ℕ :=
  let body := s.dropWhile isSpace
  let negative := body.head? = some 45
  let unsigned := if negative ∨ body.head? = some 43 then body.tail else body
  let digits := unsigned.takeWhile isDigit
  let rest := unsigned.dropWhile isDigit
  let magnitude := digitsNat digits
  if digits = [] ∨ rest.head?.any (· ≠ 0) ∨ 2 ^ 64 ≤ magnitude then none
  else
    let number := if negative then (2 ^ 64 - magnitude) % 2 ^ 64 else magnitude
    if maximum < number then none else some number

/-- `HSL1` to `HSL8`. -/
def headerVersion (line : Bytes) : Option ℕ :=
  [1, 2, 3, 4, 5, 6, 7, 8].find? fun version => line = ascii "HSL" ++ decimal version

variable (version : ℕ)

def completeState : Bool := 3 ≤ version

def predecessorState : Bool := 4 ≤ version

def recoveryState : Bool := 5 ≤ version

def ownerState : Bool := 6 ≤ version

def tagged : Bool := 7 ≤ version

def legacy : Bool := version = 1

def fieldCount : ℕ :=
  if tagged version then 27
  else if legacy version then 8
  else if ownerState version then 17
  else if recoveryState version then 15
  else if predecessorState version then 13
  else if completeState version then 11
  else 10

def stateOfNumber : ℕ → SessionSupervisorPaperFinalizationState
  | 0 => .none
  | 1 => .fencePending
  | 2 => .fenceComplete
  | _ => .auditSealed

variable (fields : List Bytes)

/-- A field of hexadecimal digits, which is empty in a version without it. -/
def hexField (present : Bool) (i : ℕ) : Option Bytes :=
  if present then hexDecode (fields.getD i []) else some []

/-- A field with a number, which is zero in a version without it. -/
def numberField (present : Bool) (i maximum : ℕ) : Option ℕ :=
  if present then parseUnsigned (fields.getD i []) maximum else some 0

/-- The record of a row, before it is checked. -/
def recordOfFields : Option SessionSupervisorLeaseRecord := do
  let base := if tagged version then 1 else 0
  let fence := predecessorState version
  let templateId ← hexField fields true base
  let issuer ← hexField fields true (base + 1)
  let token ← hexField fields true (base + 2)
  let agentId ← hexField fields true (base + 3)
  let sessionId ← hexField fields true (base + 4)
  let peerUid ← numberField fields true (base + 5) (2 ^ 32 - 1)
  let expiresAtMs ← numberField fields true (base + 6) (2 ^ 64 - 1)
  let leaseGeneration ← numberField fields true (base + 7) (2 ^ 64 - 1)
  let predecessorToken ← hexField fields fence (base + 8)
  let predecessorGeneration ← numberField fields fence (base + 9) (2 ^ 64 - 1)
  let fencePending ← numberField fields (!legacy version) (base + if fence then 10 else 8) 1
  let fenceComplete ← numberField fields (completeState version) (base + if fence then 11 else 9) 1
  let fenceReason ← hexField fields (!legacy version)
    (base + if fence then 12 else if completeState version then 10 else 9)
  let recoveryOnly ← numberField fields (recoveryState version) (base + 13) 1
  let recoveryCommandId ← hexField fields (recoveryState version) (base + 14)
  let paperFinalizationRequired ← numberField fields (tagged version) (base + 15) 1
  let ownerAccount ← hexField fields (ownerState version) (base + if tagged version then 16 else 15)
  let ownerExecutionDomain ← hexField fields (ownerState version)
    (base + if tagged version then 17 else 16)
  let paperFinalizationState ← numberField fields (tagged version) 19 3
  let recoveryId ← hexField fields (tagged version) 20
  let finalizationId ← hexField fields (tagged version) 21
  let expectedOwnerSetSha256 ← hexField fields (tagged version) 22
  let expectedOwnerCount ← numberField fields (tagged version) 23 4096
  let ownerTokenSha256 ← hexField fields (tagged version) 24
  let finalizationReceiptSha256 ← hexField fields (tagged version) 25
  let finalizationReceipt ← hexField fields (tagged version) 26
  some
    { templateId, issuer, token, agentId, sessionId, ownerAccount, ownerExecutionDomain, peerUid,
      expiresAtMs, leaseGeneration, predecessorToken, predecessorGeneration
      fencePending := fencePending = 1
      fenceComplete := fenceComplete = 1
      fenceReason
      recoveryOnly := recoveryOnly = 1
      recoveryCommandId
      paperFinalizationRequired := paperFinalizationRequired = 1
      paperFinalizationState := stateOfNumber paperFinalizationState
      recoveryId, finalizationId, expectedOwnerSetSha256, expectedOwnerCount, ownerTokenSha256,
      finalizationReceiptSha256, finalizationReceipt }

/-- The acknowledgement of a row, before it is checked. -/
def ackOfFields : Option SessionSupervisorPaperFinalizationAck := do
  let recoveryId ← hexField fields true 1
  let finalizationId ← hexField fields true 2
  let expectedOwnerSetSha256 ← hexField fields true 3
  let expectedOwnerCount ← numberField fields true 4 4096
  let receiptSha256 ← hexField fields true 5
  let receipt ← hexField fields true 6
  let terminalReceiptSha256 ← hexField fields true 7
  let terminalReceipt ← hexField fields true 8
  let acknowledgingOwnerTokenSha256 ← hexField fields true 9
  let acknowledgingOwnerGeneration ← numberField fields true 10 (2 ^ 64 - 1)
  let acknowledgingOwnerIssuer ← hexField fields true 11
  let terminalizingOwnerAgentId ← hexField fields true 12
  let terminalizingOwnerSessionId ← hexField fields true 13
  let terminalizingOwnerAccount ← hexField fields true 14
  let terminalizingOwnerExecutionDomain ← hexField fields true 15
  some
    { recoveryId, finalizationId, expectedOwnerSetSha256, expectedOwnerCount, receiptSha256, receipt,
      terminalReceiptSha256, terminalReceipt, acknowledgingOwnerTokenSha256,
      acknowledgingOwnerGeneration, acknowledgingOwnerIssuer, terminalizingOwnerAgentId,
      terminalizingOwnerSessionId, terminalizingOwnerAccount, terminalizingOwnerExecutionDomain }

/-! ### Rows -/

/-- The checks of a lease that is read. A field that the version lacks has its default, which passes
them, so that they do not depend on the version. -/
def validParsedLease (r : SessionSupervisorLeaseRecord) : Bool :=
  24 ≤ r.token.length && (r.templateId = ascii "watch" || r.templateId = ascii "paper") &&
    r.issuer ≠ [] && r.agentId ≠ [] && r.sessionId ≠ [] && r.expiresAtMs ≠ 0 &&
    r.leaseGeneration ≠ 0 &&
    (r.templateId ≠ ascii "watch" || (r.ownerAccount = [] && r.ownerExecutionDomain = [])) &&
    (!r.recoveryOnly || r.templateId = ascii "paper") && validPredecessor r && validFence r

def validParsedScope (r : SessionSupervisorLeaseRecord) : Bool :=
  r.templateId ≠ ascii "paper" ||
    (r.ownerAccount ≠ [] && r.ownerAccount.length ≤ 128 && r.ownerExecutionDomain ≠ [] &&
      r.ownerExecutionDomain.length ≤ 128)

variable (sha256 : Bytes → Bytes)

/-- A sealed record has the digest of its receipt, which is the receipt of its group. -/
def validSealedReceipt (r : SessionSupervisorLeaseRecord) : Bool :=
  r.paperFinalizationState ≠ .auditSealed ||
    (r.finalizationReceiptSha256 = prefixedSha256 sha256 r.finalizationReceipt &&
      validPaperFinalizationReceipt sha256 r.finalizationReceipt
        { recoveryId := r.recoveryId
          finalizationId := r.finalizationId
          expectedOwnerSetSha256 := r.expectedOwnerSetSha256
          expectedOwnerCount := r.expectedOwnerCount
          ownerAccount := r.ownerAccount
          ownerDomain := r.ownerExecutionDomain })

/-- An acknowledgement has the digests of its receipts, which are the ones of its group. -/
def validParsedAck (a : SessionSupervisorPaperFinalizationAck) : Bool :=
  validPaperFinalizationAck a && a.receiptSha256 = prefixedSha256 sha256 a.receipt &&
    a.terminalReceiptSha256 = prefixedSha256 sha256 a.terminalReceipt &&
    validPaperFinalizationReceipt sha256 a.receipt
      { recoveryId := a.recoveryId
        finalizationId := a.finalizationId
        expectedOwnerSetSha256 := a.expectedOwnerSetSha256
        expectedOwnerCount := a.expectedOwnerCount
        ownerAccount := a.terminalizingOwnerAccount
        ownerDomain := a.terminalizingOwnerExecutionDomain } &&
    validPaperTerminalAckReceipt sha256 a

end LeaseCodec

namespace SessionSupervisorLeaseStore

section

variable (sha256 : Bytes → Bytes) (version : ℕ) (s : SessionSupervisorLeaseStore)

def parseRecord (fields : List Bytes) : Except String SessionSupervisorLeaseStore :=
  if fields.length ≠ fieldCount version then .error "LEASE_STORE_RECORD_INVALID"
  else match recordOfFields version fields with
    | none => .error "LEASE_STORE_RECORD_INVALID"
    | some r =>
      if !validParsedLease r then .error "LEASE_STORE_RECORD_INVALID"
      else if !validPaperFinalizationRecord r || !validSealedReceipt sha256 r then
        .error "LEASE_STORE_PAPER_FINALIZATION_RECORD_INVALID"
      else if (s.find r.token).isSome then .error "LEASE_STORE_RECORD_INVALID"
      else if isPaper r && !ownerState version then
        .error (if version = 5 then "LEASE_STORE_LEGACY_PAPER_OWNER_MISSING"
          else "LEASE_STORE_RECORD_INVALID")
      else if !validParsedScope r then .error "LEASE_STORE_RECORD_INVALID"
      else if s.watchOwnerExists r none then .error "LEASE_STORE_WATCH_OWNER_EXISTS"
      else .ok (s.putRecord r)

def parseAck (fields : List Bytes) : Except String SessionSupervisorLeaseStore :=
  if fields.length ≠ 16 then .error "LEASE_STORE_PAPER_FINALIZATION_ACK_INVALID"
  else match ackOfFields fields with
    | none => .error "LEASE_STORE_PAPER_FINALIZATION_ACK_INVALID"
    | some a =>
      if !validParsedAck sha256 a || (s.ackOf a.finalizationId).isSome then
        .error "LEASE_STORE_PAPER_FINALIZATION_ACK_INVALID"
      else .ok (s.putAck a)

def parseRow (line : Bytes) : Except String SessionSupervisorLeaseStore :=
  let row := fields tab line
  let tag := row.headD []
  if line = [] then .ok s
  else if version = 7 ∧ tag = ascii "A" then
    .error "LEASE_STORE_LEGACY_PAPER_FINALIZATION_ACK_REJECTED"
  else if version = 8 ∧ tag = ascii "A" then s.parseAck sha256 row
  else if tagged version ∧ tag ≠ ascii "R" then .error "LEASE_STORE_PLAINTEXT_INVALID"
  else s.parseRecord sha256 version row

end

/-! ### The whole store -/

/-- What the loop over the paper leases keeps. -/
structure GroupScan where
  group : Option SessionSupervisorLeaseRecord := none
  anySealed : Bool := false
  allBoundSealed : Bool := true
  sealedReceiptSha256 : Bytes := []
  sealedReceipt : Bytes := []
  finalizationOwnerAccount : Bytes := []
  finalizationOwnerDomain : Bytes := []

def isSealed (r : SessionSupervisorLeaseRecord) : Bool := r.paperFinalizationState = .auditSealed

namespace GroupScan

variable (scan : GroupScan) (r : SessionSupervisorLeaseRecord)

/-- The scope of the group, and the first record of it. -/
def scope : GroupScan :=
  { scan with
    group := some (scan.group.getD r)
    finalizationOwnerAccount :=
      if scan.finalizationOwnerAccount = [] then r.ownerAccount else scan.finalizationOwnerAccount
    finalizationOwnerDomain :=
      if scan.finalizationOwnerAccount = [] then r.ownerExecutionDomain
      else scan.finalizationOwnerDomain }

def receipt : GroupScan :=
  { scan with
    anySealed := scan.anySealed || isSealed r
    allBoundSealed := scan.allBoundSealed && isSealed r
    sealedReceiptSha256 :=
      if isSealed r ∧ scan.sealedReceiptSha256 = [] then r.finalizationReceiptSha256
      else scan.sealedReceiptSha256
    sealedReceipt :=
      if isSealed r ∧ scan.sealedReceiptSha256 = [] then r.finalizationReceipt
      else scan.sealedReceipt }

def add : Except String GroupScan :=
  if r.paperFinalizationState = .none then .ok { scan with allBoundSealed := false }
  else if scan.finalizationOwnerAccount ≠ [] ∧
      (r.ownerAccount ≠ scan.finalizationOwnerAccount ∨
        r.ownerExecutionDomain ≠ scan.finalizationOwnerDomain) then
    .error "LEASE_STORE_PAPER_FINALIZATION_SCOPE_MISMATCH"
  else if scan.group.any fun group => !sameFinalizationGroup group r then
    .error "LEASE_STORE_PAPER_FINALIZATION_GROUP_MISMATCH"
  else if isSealed r ∧ scan.sealedReceiptSha256 ≠ [] ∧
      (r.finalizationReceiptSha256 ≠ scan.sealedReceiptSha256 ∨
        r.finalizationReceipt ≠ scan.sealedReceipt) then
    .error "LEASE_STORE_PAPER_FINALIZATION_RECEIPT_MISMATCH"
  else .ok ((scan.scope r).receipt r)

end GroupScan

variable (sha256 : Bytes → Bytes)

def checkGroup (paper : List SessionSupervisorLeaseRecord) (scan : GroupScan) : Option String :=
  match scan.group with
  | none => none
  | some group =>
    if !paper.all fun r => !scopeMismatch group r then
      some "LEASE_STORE_PAPER_FINALIZATION_SCOPE_MISMATCH"
    else if (!paper.all fun r => r.paperFinalizationRequired) ||
        paper.length ≠ group.expectedOwnerCount then
      some "LEASE_STORE_PAPER_FINALIZATION_GROUP_MISMATCH"
    else match paperOwnerSetSha256 sha256 paper with
      | .error reason => some reason
      | .ok digest =>
        if digest ≠ group.expectedOwnerSetSha256 ∨ (scan.anySealed ∧ !scan.allBoundSealed) then
          some "LEASE_STORE_PAPER_FINALIZATION_GROUP_MISMATCH"
        else none

def checkStore (s : SessionSupervisorLeaseStore) : Except String SessionSupervisorLeaseStore :=
  match s.paper.foldlM GroupScan.add {} with
  | .error reason => .error reason
  | .ok scan =>
    match checkGroup sha256 s.paper scan with
    | some reason => .error reason
    | none =>
      if s.acks.any fun a => s.paper.any fun r => r.finalizationId = a.finalizationId then
        .error "LEASE_STORE_PAPER_FINALIZATION_ACK_CONFLICT"
      else .ok s

def parsePlaintext (plaintext : Bytes) : Except String SessionSupervisorLeaseStore :=
  match lines plaintext with
  | [] => .error "LEASE_STORE_PLAINTEXT_INVALID"
  | header :: rows =>
    match headerVersion header with
    | none => .error "LEASE_STORE_PLAINTEXT_INVALID"
    | some version =>
      match rows.foldlM (parseRow sha256 version) {} with
      | .error reason => .error reason
      | .ok s => checkStore sha256 s

end SessionSupervisorLeaseStore

end Hepta
