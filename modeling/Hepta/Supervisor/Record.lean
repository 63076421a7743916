import Hepta.Library.Bytes

/-!
# The lease records of the session supervisor

A lease of an agent session as the supervisor keeps it: with the scope of its owner, the fence that is
pending for it, and the state of its paper finalization.
-/

namespace Hepta

inductive SessionSupervisorPaperFinalizationState
  | none
  | fencePending
  | fenceComplete
  | auditSealed
  deriving DecidableEq, Repr

structure SessionSupervisorLeaseRecord where
  templateId : Bytes := []
  issuer : Bytes := []
  token : Bytes := []
  agentId : Bytes := []
  sessionId : Bytes := []
  ownerAccount : Bytes := []
  ownerExecutionDomain : Bytes := []
  peerUid : ℕ := 0
  expiresAtMs : ℕ := 0
  leaseGeneration : ℕ := 0
  predecessorToken : Bytes := []
  predecessorGeneration : ℕ := 0
  fencePending : Bool := false
  fenceComplete : Bool := false
  fenceReason : Bytes := []
  recoveryOnly : Bool := false
  recoveryCommandId : Bytes := []
  paperFinalizationRequired : Bool := false
  paperFinalizationState : SessionSupervisorPaperFinalizationState := .none
  recoveryId : Bytes := []
  finalizationId : Bytes := []
  expectedOwnerSetSha256 : Bytes := []
  expectedOwnerCount : ℕ := 0
  ownerTokenSha256 : Bytes := []
  finalizationReceiptSha256 : Bytes := []
  finalizationReceipt : Bytes := []
  deriving DecidableEq, Repr

end Hepta
