import Hepta.Supervisor.Record

/-!
# Checks of the lease codec

The shape of the records and the acknowledgements of the lease store, and the receipts of a paper
finalization. `Sha256Hex` is a parameter: the digest of a text as 64 lower-case hexadecimal digits.
-/

namespace Hepta

open Bytes

structure SessionSupervisorPaperFinalizationAck where
  recoveryId : Bytes := []
  finalizationId : Bytes := []
  expectedOwnerSetSha256 : Bytes := []
  expectedOwnerCount : ℕ := 0
  receiptSha256 : Bytes := []
  receipt : Bytes := []
  terminalReceiptSha256 : Bytes := []
  terminalReceipt : Bytes := []
  acknowledgingOwnerTokenSha256 : Bytes := []
  acknowledgingOwnerGeneration : ℕ := 0
  acknowledgingOwnerIssuer : Bytes := []
  terminalizingOwnerAgentId : Bytes := []
  terminalizingOwnerSessionId : Bytes := []
  terminalizingOwnerAccount : Bytes := []
  terminalizingOwnerExecutionDomain : Bytes := []
  deriving DecidableEq, Repr

namespace LeaseCodec

def isSha256 (s : Bytes) : Bool := s.length = 64 && s.all fun c => (Bytes.hexValue c).isSome

def isPrefixedSha256 (s : Bytes) : Bool :=
  s.length = 71 && s.take 7 = ascii "sha256:" && isSha256 (s.drop 7)

def finalizationText (s : Bytes) (maximum : ℕ) : Bool :=
  s ≠ [] && s.length ≤ maximum && s.all fun c => 0x21 ≤ c.toNat && c.toNat ≤ 0x7e

def decodeCanonicalHex (encoded : Bytes) : Option Bytes :=
  if encoded = [] then none else hexDecode encoded

def parseCanonicalUnsigned (s : Bytes) : Option ℕ := (digitsValue s).filter fun n => n < 2 ^ 64

/-! ### Records -/

section

variable (r left right : SessionSupervisorLeaseRecord)

def validPaperFinalizationRecord : Bool :=
  if r.paperFinalizationState = .none then
    (!r.paperFinalizationRequired || (r.templateId = ascii "paper" && r.recoveryOnly)) &&
      r.recoveryId = [] && r.finalizationId = [] && r.expectedOwnerSetSha256 = [] &&
      r.expectedOwnerCount = 0 && r.ownerTokenSha256 = [] && r.finalizationReceiptSha256 = [] &&
      r.finalizationReceipt = []
  else if !r.paperFinalizationRequired || r.templateId ≠ ascii "paper" || !r.recoveryOnly ||
      r.fencePending || r.fenceComplete || !finalizationText r.recoveryId 128 ||
      !finalizationText r.finalizationId 128 || !isPrefixedSha256 r.expectedOwnerSetSha256 ||
      r.expectedOwnerCount = 0 || 4096 < r.expectedOwnerCount ||
      !isPrefixedSha256 r.ownerTokenSha256 then false
  else if r.paperFinalizationState = .fencePending ∨ r.paperFinalizationState = .fenceComplete then
    r.finalizationReceiptSha256 = [] && r.finalizationReceipt = []
  else
    isPrefixedSha256 r.finalizationReceiptSha256 && r.finalizationReceipt ≠ [] &&
      r.finalizationReceipt.length ≤ 4096

def hasPredecessor : Bool := r.predecessorToken ≠ [] || r.predecessorGeneration ≠ 0

/-- The part of `ValidMutableLeaseRecord` about the predecessor. -/
def validPredecessor : Bool :=
  (decide (r.predecessorToken ≠ []) == decide (r.predecessorGeneration ≠ 0)) &&
    (!hasPredecessor r ||
      ((r.templateId = ascii "watch" && r.fencePending && r.fenceReason = ascii "session_revoked") ||
        (r.templateId = ascii "paper" &&
          ((r.fencePending && r.fenceReason = ascii "session_revoked") ||
            (r.recoveryOnly && !r.fencePending)))) &&
      24 ≤ r.predecessorToken.length && r.predecessorGeneration ≠ 2 ^ 64 - 1 &&
      r.leaseGeneration = r.predecessorGeneration + 1)

/-- The part of `ValidMutableLeaseRecord` about the fence and the recovery. -/
def validFence : Bool :=
  (!r.fenceComplete || (r.fencePending && r.templateId = ascii "watch")) &&
    (!r.fencePending || r.fenceReason = ascii "session_revoked" ||
      r.fenceReason = ascii "session_expired") &&
    (r.fencePending || (!r.fenceComplete && r.fenceReason = [])) &&
    (r.recoveryOnly || r.recoveryCommandId = []) && r.recoveryCommandId.length ≤ 128

def validMutableLeaseRecord : Bool :=
  24 ≤ r.token.length && (r.templateId = ascii "watch" || r.templateId = ascii "paper") &&
    r.issuer ≠ [] && r.agentId ≠ [] && r.sessionId ≠ [] && r.expiresAtMs ≠ 0 &&
    r.leaseGeneration ≠ 0 &&
    (r.templateId ≠ ascii "watch" || (r.ownerAccount = [] && r.ownerExecutionDomain = [])) &&
    (!r.recoveryOnly || r.templateId = ascii "paper") &&
    (r.templateId ≠ ascii "paper" ||
      (r.ownerAccount ≠ [] && r.ownerAccount.length ≤ 128 && r.ownerExecutionDomain ≠ [] &&
        r.ownerExecutionDomain.length ≤ 128)) &&
    validPredecessor r && validFence r && validPaperFinalizationRecord r

def sameLeaseFields : Bool :=
  left.templateId = right.templateId && left.issuer = right.issuer && left.token = right.token &&
    left.agentId = right.agentId && left.sessionId = right.sessionId &&
    left.ownerAccount = right.ownerAccount &&
    left.ownerExecutionDomain = right.ownerExecutionDomain && left.peerUid = right.peerUid &&
    left.expiresAtMs = right.expiresAtMs && left.leaseGeneration = right.leaseGeneration &&
    left.predecessorToken = right.predecessorToken &&
    left.predecessorGeneration = right.predecessorGeneration &&
    left.fencePending = right.fencePending && left.fenceComplete = right.fenceComplete &&
    left.fenceReason = right.fenceReason && left.recoveryOnly = right.recoveryOnly &&
    left.recoveryCommandId = right.recoveryCommandId &&
    left.paperFinalizationRequired = right.paperFinalizationRequired

def sameFinalizationGroup : Bool :=
  left.recoveryId = right.recoveryId && left.finalizationId = right.finalizationId &&
    left.expectedOwnerSetSha256 = right.expectedOwnerSetSha256 &&
    left.expectedOwnerCount = right.expectedOwnerCount

def sameFinalizationBinding : Bool :=
  left.ownerTokenSha256 = right.ownerTokenSha256 && sameFinalizationGroup left right

end

def validPaperFinalizationAck (a : SessionSupervisorPaperFinalizationAck) : Bool :=
  finalizationText a.recoveryId 128 && finalizationText a.finalizationId 128 &&
    isPrefixedSha256 a.expectedOwnerSetSha256 && 0 < a.expectedOwnerCount &&
    a.expectedOwnerCount ≤ 4096 && isPrefixedSha256 a.receiptSha256 && a.receipt ≠ [] &&
    a.receipt.length ≤ 4096 && isPrefixedSha256 a.terminalReceiptSha256 &&
    a.terminalReceipt ≠ [] && a.terminalReceipt.length ≤ 12288 &&
    isPrefixedSha256 a.acknowledgingOwnerTokenSha256 && 0 < a.acknowledgingOwnerGeneration &&
    finalizationText a.acknowledgingOwnerIssuer 128 &&
    finalizationText a.terminalizingOwnerAgentId 128 &&
    finalizationText a.terminalizingOwnerSessionId 128 &&
    finalizationText a.terminalizingOwnerAccount 128 &&
    finalizationText a.terminalizingOwnerExecutionDomain 128

/-! ### The preliminary receipt -/

/-- The values of a text whose lines are the keys, each with its value. -/
def keyedValues : List String → List Bytes → Option (List Bytes)
  | [], [] => some []
  | key :: keys, line :: lines =>
    let start := ascii key ++ ascii "="
    if start.isPrefixOf line then (keyedValues keys lines).map (line.drop start.length :: ·)
    else none
  | _, _ => none

def receiptKeys : List String :=
  ["schema", "version", "status", "recovery_id", "finalization_id", "expected_owner_set_sha256",
    "expected_owner_count", "owner_set_canonical_hex", "owner_account", "owner_execution_domain",
    "execution_service_epoch", "execution_service_fencing_generation", "broker_connection_epoch",
    "broker_active_generation", "broker_terminal_generation", "broker_risk_generation",
    "broker_account_generation", "broker_position_generation", "broker_fx_cash_generation",
    "broker_exposure_generation", "broker_terminal_exposure_generation",
    "broker_risk_absorbed_exposure_generation", "broker_global_active_order_count",
    "owner_active_order_count", "owner_uncertain_command_count",
    "broker_post_fill_risk_reconciliation_pending", "broker_recovery_audit_barrier_complete",
    "broker_recovery_audit_new_connection_epoch_required", "broker_position_quantity",
    "broker_gross_absolute_position", "paper_only", "live_authorized"]

/-- What a receipt is checked against. -/
structure ReceiptBinding where
  recoveryId : Bytes
  finalizationId : Bytes
  expectedOwnerSetSha256 : Bytes
  expectedOwnerCount : ℕ
  ownerAccount : Bytes
  ownerDomain : Bytes

variable (sha256 : Bytes → Bytes)

def prefixedSha256 (s : Bytes) : Bytes := ascii "sha256:" ++ sha256 s

/-- The owner set that the receipt gives is the expected one. -/
def validOwnerSet (b : ReceiptBinding) (encoded : Bytes) : Bool :=
  match decodeCanonicalHex encoded with
  | none => false
  | some canonical =>
    b.expectedOwnerSetSha256 = prefixedSha256 sha256 canonical &&
      canonical.count newline = b.expectedOwnerCount && canonical.getLast? = some newline

/-- The numbers of the receipt, at the places 6, 11, …, 24 of its values. -/
def validReceiptNumbers (count : ℕ) (v : ℕ → Bytes) : Bool :=
  match ([6, 11, 12, 13, 14, 15, 16, 17, 18, 19, 20, 21, 22, 23, 24].map v).mapM
      parseCanonicalUnsigned with
  | none => false
  | some numeric =>
    let n := fun i => numeric.getD i 0
    n 0 = count && n 0 ≠ 0 && n 0 ≤ 4096 && ([1, 2, 3, 4, 5, 6, 7, 8].all fun i => n i ≠ 0) &&
      n 10 ≤ n 11 && n 11 = n 9 && n 12 = 0 && n 13 = 0 && n 14 = 0

def validPaperFinalizationReceipt (receipt : Bytes) (b : ReceiptBinding) : Bool :=
  receipt ≠ [] && receipt.length ≤ 4096 && receipt.getLast? = some newline &&
    match keyedValues receiptKeys (lines receipt) with
    | none => false
    | some values =>
      let v := fun i => values.getD i []
      v 0 = ascii "hepta.paper-session-finalization-receipt.v1" && v 1 = ascii "1" &&
        v 2 = ascii "AUDIT_SEALED" && v 3 = b.recoveryId && v 4 = b.finalizationId &&
        v 5 = b.expectedOwnerSetSha256 && v 25 = ascii "0" && v 26 = ascii "1" &&
        v 27 = ascii "0" && v 28 = ascii "0" && v 29 = ascii "0" && v 30 = ascii "1" &&
        v 31 = ascii "0" && finalizationText (v 3) 128 && finalizationText (v 4) 128 &&
        isPrefixedSha256 (v 5) && finalizationText (v 8) 128 && finalizationText (v 9) 128 &&
        finalizationText (v 10) 256 && (b.ownerAccount = [] || v 8 = b.ownerAccount) &&
        (b.ownerDomain = [] || v 9 = b.ownerDomain) &&
        validReceiptNumbers b.expectedOwnerCount v && validOwnerSet sha256 b (v 7)

/-- The owner set that a receipt gives, which is read from the first line with its key. -/
def receiptOwnerSet (receipt : Bytes) : Option Bytes :=
  let start := ascii "owner_set_canonical_hex="
  ((lines receipt).find? fun line => start.isPrefixOf line).bind fun line =>
    decodeCanonicalHex (line.drop start.length)

def paperFinalizationReceiptContainsOwner (receipt ownerTokenSha256 : Bytes) : Bool :=
  (receiptOwnerSet receipt).any fun canonical =>
    (lines canonical).any fun line => (ownerTokenSha256 ++ [tab]).isPrefixOf line

def retiredPaperOwner (acks : List SessionSupervisorPaperFinalizationAck) (token : Bytes) : Bool :=
  let tokenSha256 := prefixedSha256 sha256 (token ++ [newline])
  acks.any fun a => paperFinalizationReceiptContainsOwner a.receipt tokenSha256

def ownerLine (r : SessionSupervisorLeaseRecord) : Bytes :=
  prefixedSha256 sha256 (r.token ++ [newline]) ++ [tab] ++ decimal r.leaseGeneration ++ [tab] ++
    hexEncode r.ownerAccount ++ [tab] ++ hexEncode r.ownerExecutionDomain ++ [newline]

/-- The lines of the owners in their order, one after the other. -/
def canonicalOwnerSet (paper : List SessionSupervisorLeaseRecord) : Bytes :=
  ((paper.map (ownerLine sha256)).mergeSort Bytes.le).flatten

def paperOwnerSetSha256 (paper : List SessionSupervisorLeaseRecord) : Except String Bytes :=
  if paper.any fun r => r.ownerTokenSha256 ≠ [] &&
      r.ownerTokenSha256 ≠ prefixedSha256 sha256 (r.token ++ [newline]) then
    .error "LEASE_STORE_PAPER_OWNER_TOKEN_IDENTITY_MISMATCH"
  else if paper = [] then .error "LEASE_STORE_PAPER_OWNER_SET_REQUIRED"
  else .ok (prefixedSha256 sha256 (canonicalOwnerSet sha256 paper))

end LeaseCodec

end Hepta
