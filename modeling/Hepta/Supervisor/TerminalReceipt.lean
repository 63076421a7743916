import Hepta.Supervisor.Codec

/-!
# The terminal acknowledgement receipt
-/

namespace Hepta

open Bytes

namespace LeaseCodec

def terminalKeys : List String :=
  ["schema", "version", "status", "terminal_proof_kind", "recovery_id", "finalization_id",
    "campaign_id", "cycle_id", "expected_owner_set_sha256", "expected_owner_count",
    "owner_set_canonical_hex", "preliminary_finalization_receipt_sha256", "owner_agent_id",
    "owner_session_id", "owner_account", "owner_execution_domain", "account_id_sha256",
    "execution_service_epoch", "execution_service_fencing_generation", "recovery_ingress_fence",
    "terminalization_generation", "terminalizing_latch_sha256",
    "terminal_external_halt_latch_sha256", "transport_cutoff_receipt_file_sha256",
    "transport_cutoff_receipt_body_sha256", "post_cutoff_terminal_witness_file_sha256",
    "post_cutoff_terminal_witness_body_sha256", "provider_trust_policy_file_sha256",
    "provider_trust_policy_body_sha256", "provider_id", "provider_capability",
    "signed_account_payload_sha256", "signed_account_signature_sha256", "host_boot_id",
    "egress_publisher_pid", "egress_publisher_start_ticks", "egress_policy_generation",
    "egress_policy_sha256", "query_started_after_challenge", "observed_after_cutoff",
    "snapshot_consistency", "causal_watermark_dominates_cutoff",
    "causal_watermark_dominates_all_mutations", "account_queries_complete",
    "active_orders_complete", "completed_orders_complete", "executions_complete",
    "positions_complete", "cash_fx_complete", "risk_complete", "known_mutation_command_set_sha256",
    "known_mutation_command_count", "known_correlation_set_sha256", "known_correlation_count",
    "all_known_mutation_commands_settled", "settled_mutation_command_count",
    "unknown_mutation_command_count", "unresolved_mutation_command_count",
    "unknown_active_order_count", "active_order_count", "position_count", "nonzero_cash_fx_count",
    "gross_absolute_position", "gross_fx_exposure", "gross_risk", "mutation_connector_count",
    "broker_socket_count", "broker_process_count", "broker_credential_count",
    "execution_service_inactive", "paper_units_inactive", "execution_mutation_gate_closed",
    "broker_transport_connected", "broker_reconnect_permitted", "read_only_authority",
    "mutation_attempted", "paper_authorized", "live_authorized", "mutation_authorized",
    "direct_broker_access", "order_submission_authorized", "order_authorized", "paper_only",
    "authority_granted", "terminal_external_halt_latch_durable", "terminal_witness_durable",
    "current_host_boundary_verified", "terminal_evidence_file_sha256",
    "terminal_evidence_body_sha256"]

def terminalDigests : List String :=
  ["expected_owner_set_sha256", "preliminary_finalization_receipt_sha256", "account_id_sha256",
    "terminalizing_latch_sha256", "terminal_external_halt_latch_sha256",
    "transport_cutoff_receipt_file_sha256", "transport_cutoff_receipt_body_sha256",
    "post_cutoff_terminal_witness_file_sha256", "post_cutoff_terminal_witness_body_sha256",
    "provider_trust_policy_file_sha256", "provider_trust_policy_body_sha256",
    "signed_account_payload_sha256", "signed_account_signature_sha256", "egress_policy_sha256",
    "known_mutation_command_set_sha256", "known_correlation_set_sha256",
    "terminal_evidence_file_sha256", "terminal_evidence_body_sha256"]

def terminalZeros : List String :=
  ["unknown_mutation_command_count", "unresolved_mutation_command_count",
    "unknown_active_order_count", "active_order_count", "position_count", "nonzero_cash_fx_count",
    "gross_absolute_position", "gross_fx_exposure", "gross_risk", "mutation_connector_count",
    "broker_socket_count", "broker_process_count", "broker_credential_count"]

def terminalTruths : List String :=
  ["query_started_after_challenge", "observed_after_cutoff", "causal_watermark_dominates_cutoff",
    "causal_watermark_dominates_all_mutations", "account_queries_complete",
    "active_orders_complete", "completed_orders_complete", "executions_complete",
    "positions_complete", "cash_fx_complete", "risk_complete",
    "all_known_mutation_commands_settled", "execution_service_inactive", "paper_units_inactive",
    "execution_mutation_gate_closed", "read_only_authority", "paper_only",
    "terminal_external_halt_latch_durable", "terminal_witness_durable",
    "current_host_boundary_verified"]

def terminalFalses : List String :=
  ["broker_transport_connected", "broker_reconnect_permitted", "mutation_attempted",
    "paper_authorized", "live_authorized", "mutation_authorized", "direct_broker_access",
    "order_submission_authorized", "order_authorized", "authority_granted"]

/-- A boot id: digits in groups, not all of them zero. -/
def validBootId (s : Bytes) : Bool :=
  s.length = 36 && s ≠ ascii "00000000-0000-0000-0000-000000000000" &&
    s.zipIdx.all fun (c, i) =>
      if i = 8 ∨ i = 13 ∨ i = 18 ∨ i = 23 then c = 45 else (Bytes.hexValue c).isSome

def zeroDigest : Bytes := ascii "sha256:" ++ List.replicate 64 48

/-- One line of the owner set: the token, the generation, the account and the domain. -/
def validOwnerLine (account domain line : Bytes) : Bool :=
  match fields tab line with
  | [token, generation, encodedAccount, encodedDomain] =>
    isPrefixedSha256 token && token ≠ zeroDigest &&
      (parseCanonicalUnsigned generation).any (· ≠ 0) &&
      decodeCanonicalHex encodedAccount = some account &&
      decodeCanonicalHex encodedDomain = some domain
  | _ => false

variable (sha256 : Bytes → Bytes)

variable (a : SessionSupervisorPaperFinalizationAck)

/-- The owner set of the terminal receipt: the expected one, its lines valid and rising. -/
def validTerminalOwnerSet (encoded : Bytes) : Bool :=
  match decodeCanonicalHex encoded with
  | none => false
  | some canonical =>
    let owners := lines canonical
    canonical.getLast? = some newline &&
      a.expectedOwnerSetSha256 = prefixedSha256 sha256 canonical &&
      owners.all (fun line => line ≠ [] &&
        validOwnerLine a.terminalizingOwnerAccount a.terminalizingOwnerExecutionDomain line) &&
      (owners.zip owners.tail).all (fun (line, next) => !Bytes.le next line) &&
      owners.length = a.expectedOwnerCount

def validTerminalNumbers (v : String → Bytes) : Bool :=
  let n := fun key => parseCanonicalUnsigned (v key)
  n "expected_owner_count" = some a.expectedOwnerCount && a.expectedOwnerCount ≠ 0 &&
    a.expectedOwnerCount ≤ 4096 && (n "execution_service_fencing_generation").any (· ≠ 0) &&
    n "recovery_ingress_fence" = some a.acknowledgingOwnerGeneration &&
    a.acknowledgingOwnerGeneration ≠ 0 && n "terminalization_generation" = some 1 &&
    (n "egress_publisher_pid").any (· ≠ 0) && (n "egress_publisher_start_ticks").any (· ≠ 0) &&
    (n "egress_policy_generation").any (· ≠ 0) && (n "known_mutation_command_count").isSome &&
    (n "known_correlation_count").isSome &&
    n "settled_mutation_command_count" = n "known_mutation_command_count"

def validPaperTerminalAckReceipt : Bool :=
  a.terminalReceipt ≠ [] && a.terminalReceipt.length ≤ 12288 &&
    a.terminalReceipt.getLast? = some newline && isPrefixedSha256 a.receiptSha256 &&
    match keyedValues terminalKeys (lines a.terminalReceipt) with
    | none => false
    | some values =>
      let v := fun key => ((terminalKeys.zip values).lookup key).getD []
      values.all (fun value => value ≠ [] && !value.contains 61) &&
        v "schema" = ascii "hepta.paper-session-terminal-ack-receipt.v3" &&
        v "version" = ascii "3" && v "status" = ascii "TERMINAL_ACKED" &&
        v "terminal_proof_kind" = ascii "POST_CUTOFF_SIGNED_ACCOUNT_WITNESS_V1" &&
        v "recovery_id" = a.recoveryId && v "finalization_id" = a.finalizationId &&
        v "expected_owner_set_sha256" = a.expectedOwnerSetSha256 &&
        v "preliminary_finalization_receipt_sha256" = a.receiptSha256 &&
        v "owner_agent_id" = a.terminalizingOwnerAgentId &&
        v "owner_session_id" = a.terminalizingOwnerSessionId &&
        v "owner_account" = a.terminalizingOwnerAccount &&
        v "owner_execution_domain" = a.terminalizingOwnerExecutionDomain &&
        v "provider_capability" =
          ascii "ACCOUNT_WIDE_ATOMIC_OR_CAUSAL_POST_CUTOFF_READ_ONLY_V1" &&
        (v "snapshot_consistency" = ascii "ATOMIC_ACCOUNT" ||
          v "snapshot_consistency" = ascii "CAUSAL_WATERMARK") &&
        (["recovery_id", "finalization_id", "campaign_id", "cycle_id", "owner_agent_id",
          "owner_session_id", "owner_account", "owner_execution_domain", "provider_id"].all
            fun key => finalizationText (v key) 128) &&
        finalizationText (v "execution_service_epoch") 256 &&
        terminalDigests.all (fun key => isPrefixedSha256 (v key) && v key ≠ zeroDigest) &&
        validTerminalNumbers a v && terminalZeros.all (fun key => v key = ascii "0") &&
        terminalTruths.all (fun key => v key = ascii "1") &&
        terminalFalses.all (fun key => v key = ascii "0") && validBootId (v "host_boot_id") &&
        v "account_id_sha256" = prefixedSha256 sha256 (v "owner_account") &&
        validTerminalOwnerSet sha256 a (v "owner_set_canonical_hex")

end LeaseCodec

end Hepta
