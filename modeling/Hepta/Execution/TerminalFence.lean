import Hepta.Execution.Coordinator

/-!
# The terminal fence binding and its text

The binding of the irreversible PAPER terminal fence, the text under which it is journaled,
and the reading of that text (`paper_terminal_mutation_manifest.cpp`), with the parsing of
decimal numbers that recovery relies on.
-/

namespace Hepta

/-! ### Numbers -/

def decimalValue (digits : List Char) : Option Nat :=
  if digits = [] then none
  else digits.foldl (fun value c => value.bind fun n =>
    if '0' ≤ c ∧ c ≤ '9' then some (10 * n + (c.toNat - '0'.toNat)) else none) (some 0)

/-- The characters that `strtoull` skips before a number. -/
def isSpace (c : Char) : Bool := c.toNat = 32 || (9 ≤ c.toNat && c.toNat ≤ 13)

/-- `strtoull` in base ten, when it stops at the end of the text without an error. A text ends
at its first NUL, and a minus sign negates modulo `2 ^ 64`. -/
def strtoull (text : String) : Option UInt64 :=
  let chars := (text.toList.takeWhile (·.toNat ≠ 0)).dropWhile isSpace
  let negative := chars.head? = some '-'
  let digits := if chars.head? = some '-' ∨ chars.head? = some '+' then chars.tail else chars
  match decimalValue digits with
  | none => none
  | some n =>
    if n < 2 ^ 64 then some (if negative then -UInt64.ofNat n else UInt64.ofNat n) else none

/-- `ParseUnsigned`: no sign, no leading zero, no overflow. -/
def parseUnsigned (value : String) : Option UInt64 :=
  if 1 < value.toList.length ∧ value.toList.head? = some '0' then none
  else match decimalValue value.toList with
    | none => none
    | some n => if n < 2 ^ 64 then some (UInt64.ofNat n) else none

/-! ### Hexadecimal text -/

def hexText (value : String) : String :=
  String.ofList (value.toByteArray.toList.flatMap fun byte =>
    [hexDigit (byte.toNat / 16), hexDigit (byte.toNat % 16)])

def hexValue (c : Char) : Option Nat :=
  if '0' ≤ c ∧ c ≤ '9' then some (c.toNat - '0'.toNat)
  else if 'a' ≤ c ∧ c ≤ 'f' then some (10 + (c.toNat - 'a'.toNat))
  else none

/-- The bytes of `DecodeHex`; every byte becomes one character, so that a byte outside ASCII
fails the text check of the binding as it does in the code. -/
def decodeHexChars : List Char → Option (List Char)
  | []           => some []
  | [_]          => none
  | a :: b :: cs => do
    let high ← hexValue a
    let low ← hexValue b
    let rest ← decodeHexChars cs
    return Char.ofNat (16 * high + low) :: rest

def decodeHex (encoded : String) : Option String :=
  if encoded = "" then none else (decodeHexChars encoded.toList).map String.ofList

/-! ### The binding -/

/-- `Text`: printable ASCII without blanks, of bounded length. -/
def isText (value : String) (maximum : Nat) : Bool :=
  value ≠ "" && value.utf8ByteSize ≤ maximum &&
  value.toList.all fun c => 0x21 ≤ c.toNat && c.toNat ≤ 0x7e

def isSha256Value (value : String) : Bool :=
  value.utf8ByteSize = 71 && value.toList.take 7 = "sha256:".toList &&
  (value.toList.drop 7).all fun c => (hexValue c).isSome

namespace PaperTerminalFenceBinding

variable (binding : PaperTerminalFenceBinding)

def valid : Bool :=
  isText binding.owner.agentId 128 && isText binding.owner.sessionId 128 &&
  isText binding.owner.account 128 && isText binding.owner.executionDomain 128 &&
  isText binding.finalizationId 128 && isSha256Value binding.preliminaryReceiptSha256 &&
  binding.recoveryIngressFence ≠ 0 && isText binding.serviceEpoch 128 &&
  binding.serviceFencingGeneration ≠ 0 && binding.serviceProcessId ≠ 0 &&
  binding.serviceProcessStartTicks ≠ 0 && binding.brokerConnectionEpoch ≠ 0 &&
  isSha256Value binding.brokerSocketIdentitySha256

/-- `SamePaperTerminalFenceBinding`. -/
def same (left right : PaperTerminalFenceBinding) : Bool :=
  left.owner.agentId = right.owner.agentId && left.owner.sessionId = right.owner.sessionId &&
  left.owner.account = right.owner.account &&
  left.owner.executionDomain = right.owner.executionDomain &&
  left.finalizationId = right.finalizationId &&
  left.preliminaryReceiptSha256 = right.preliminaryReceiptSha256 &&
  left.recoveryIngressFence = right.recoveryIngressFence &&
  left.serviceEpoch = right.serviceEpoch &&
  left.serviceFencingGeneration = right.serviceFencingGeneration &&
  left.serviceProcessId = right.serviceProcessId &&
  left.serviceProcessStartTicks = right.serviceProcessStartTicks &&
  left.brokerConnectionEpoch = right.brokerConnectionEpoch &&
  left.brokerSocketIdentitySha256 = right.brokerSocketIdentitySha256

/-- The named fields of the journaled text, in their order. -/
def fields : List (String × String) :=
  [("owner_agent_id_hex", hexText binding.owner.agentId),
    ("owner_session_id_hex", hexText binding.owner.sessionId),
    ("owner_account_hex", hexText binding.owner.account),
    ("owner_execution_domain_hex", hexText binding.owner.executionDomain),
    ("finalization_id", binding.finalizationId),
    ("preliminary_finalization_receipt_sha256", binding.preliminaryReceiptSha256),
    ("recovery_ingress_fence", toString binding.recoveryIngressFence.toNat),
    ("terminalization_service_epoch_hex", hexText binding.serviceEpoch),
    ("terminalization_service_fencing_generation",
      toString binding.serviceFencingGeneration.toNat),
    ("service_process_id", toString binding.serviceProcessId.toNat),
    ("service_process_start_ticks", toString binding.serviceProcessStartTicks.toNat),
    ("broker_connection_epoch", toString binding.brokerConnectionEpoch.toNat),
    ("broker_socket_identity_sha256", binding.brokerSocketIdentitySha256)]

/-- `EncodePaperTerminalFenceBinding`; the empty text refuses an invalid binding. -/
def encode : String :=
  if binding.valid then
    binding.fields.foldl (fun out field => out ++ field.1 ++ "=" ++ field.2 ++ "\n") "HPTF2\n"
  else ""

/-- One line of the journaled text, cut at its first `=`. -/
def parseField (line : List Char) : Option (String × String) :=
  let name := line.takeWhile (· ≠ '=')
  let value := line.drop (name.length + 1)
  if name = line ∨ name = [] ∨ value = [] then none
  else some (String.ofList name, String.ofList value)

/-- The fields of the journaled text; a malformed or repeated field is refused. -/
def parseFields : List (List Char) → Option (List (String × String))
  | []            => some []
  | line :: lines =>
    if line = [] then parseFields lines
    else do
      let field ← parseField line
      let rest ← parseFields lines
      if (rest.lookup field.1).isSome then none else return field :: rest

/-- The names that `DecodePaperTerminalFenceBinding` requires. -/
def fieldNames : List String :=
  ["owner_agent_id_hex", "owner_session_id_hex", "owner_account_hex",
    "owner_execution_domain_hex", "finalization_id", "preliminary_finalization_receipt_sha256",
    "recovery_ingress_fence", "terminalization_service_epoch_hex",
    "terminalization_service_fencing_generation", "service_process_id",
    "service_process_start_ticks", "broker_connection_epoch", "broker_socket_identity_sha256"]

def ofFields (fields : List (String × String)) : Option PaperTerminalFenceBinding := do
  let text := fun name => fields.lookup name
  let hex := fun name => (text name).bind decodeHex
  let number := fun name => (text name).bind parseUnsigned
  let agentId ← hex "owner_agent_id_hex"
  let sessionId ← hex "owner_session_id_hex"
  let account ← hex "owner_account_hex"
  let executionDomain ← hex "owner_execution_domain_hex"
  let serviceEpoch ← hex "terminalization_service_epoch_hex"
  let recoveryIngressFence ← number "recovery_ingress_fence"
  let serviceFencingGeneration ← number "terminalization_service_fencing_generation"
  let serviceProcessId ← number "service_process_id"
  let serviceProcessStartTicks ← number "service_process_start_ticks"
  let brokerConnectionEpoch ← number "broker_connection_epoch"
  let finalizationId ← text "finalization_id"
  let preliminaryReceiptSha256 ← text "preliminary_finalization_receipt_sha256"
  let brokerSocketIdentitySha256 ← text "broker_socket_identity_sha256"
  return {
    owner := { agentId, sessionId, account, executionDomain }
    finalizationId, preliminaryReceiptSha256, recoveryIngressFence, serviceEpoch
    serviceFencingGeneration, serviceProcessId, serviceProcessStartTicks
    brokerConnectionEpoch, brokerSocketIdentitySha256 }

/-- `DecodePaperTerminalFenceBinding`, with its reason on failure. -/
def decode (encoded : String) : Except String PaperTerminalFenceBinding :=
  let invalid := "IB_PAPER_TERMINAL_FENCE_BINDING_INVALID"
  match encoded.toList.splitOn '\n' with
  | [] => .error "IB_PAPER_TERMINAL_FENCE_V2_REQUIRED"
  | first :: lines =>
    if first ≠ "HPTF2".toList then .error "IB_PAPER_TERMINAL_FENCE_V2_REQUIRED"
    else match parseFields lines with
      | none => .error invalid
      | some fields =>
        if fields.length ≠ fieldNames.length ∨ ¬ ∀ name ∈ fieldNames, (fields.lookup name).isSome
        then .error invalid
        else match ofFields fields with
          | none => .error invalid
          | some binding => if binding.valid then .ok binding else .error invalid

end PaperTerminalFenceBinding

end Hepta
