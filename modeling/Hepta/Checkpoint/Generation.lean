import Hepta.Library.Search
import Hepta.Checkpoint.Project
import Hepta.Execution.Place

/-!
# The generation store

What the coordinator reads from a sealed generation (`OmsGenerationStore` and `RequestRecordStore`
in `execution_generation_support.cpp`): the hot replay, one row for every sealed command and one for
every sealed send. The indexes are sorted files that are searched by halving; `pick` says which row
lies in the middle of a range.
-/

namespace Hepta

open Checkpoint

structure Generation where
  hotReplay : List OmsJournalEvent
  commandIndex : List CommandRow
  sendIndex : List SendRow
  /-- The manifest names the order of the send index. -/
  sendIndexWindowSorted : Bool := true
deriving DecidableEq

def Checkpoint.generation (sealed : List OmsJournalEvent) (p : Projection) : Generation where
  hotReplay := Checkpoint.hotReplay sealed p
  commandIndex := commandRows p.commands
  sendIndex := sendRows p.sendAttempts

namespace Generation

variable (g : Generation)

/-- The coordinator that recovers from the generation and the records behind it
(`OmsGenerationStore::Recover`). -/
def recover (tail : List OmsJournalEvent) : Coordinator :=
  Coordinator.recovered (g.hotReplay ++ tail)

/-! ### Send attempts -/

/-- The row is in front of the window of `ReadPlaceSendAttemptTimes`. -/
def beforeWindow (account executionDomain : String) (cutoffMs : Int) (row : SendRow) : Bool :=
  hex row.account < hex account ||
    (hex row.account = hex account && hex row.executionDomain < hex executionDomain) ||
    (hex row.account = hex account && hex row.executionDomain = hex executionDomain &&
      row.tsMs ≤ cutoffMs)

/-- The rows that `ReadPlaceSendAttemptTimes` reads from the start of the window on. -/
def readWindow (account executionDomain : String) (cutoffMs : Int) :
    List SendRow → Except String (List SendRow)
  | [] => .ok []
  | row :: rows =>
    if hex row.account ≠ hex account ∨ hex row.executionDomain ≠ hex executionDomain then .ok []
    else if row.tsMs ≤ cutoffMs then .error "OMS_GENERATION_SEND_INDEX_ORDER_INVALID"
    else (readWindow account executionDomain cutoffMs rows).map (row :: ·)

def readPlaceSendAttemptTimes (pick : ℕ → ℕ → ℕ) (account executionDomain : String)
    (cutoffMs : Int) (excludedRequestKeys : Finset String) : Except String (List SendRow) := do
  let rows ← if g.sendIndexWindowSorted then
      readWindow account executionDomain cutoffMs (g.sendIndex.drop (Search.lowerBound pick
        (beforeWindow account executionDomain cutoffMs) g.sendIndex g.sendIndex.length 0
        g.sendIndex.length))
    else pure g.sendIndex
  let attempts := rows.filter fun row =>
    row.account = account ∧ row.executionDomain = executionDomain ∧ cutoffMs < row.tsMs ∧
      requestKey row.key.agentId row.key.sessionId row.key.commandId ∉ excludedRequestKeys
  return attempts.insertionSort fun a b => a.sequence ≤ b.sequence

/-- `GetPlaceSendAttemptTimesLocked` with an active generation, at the time `now`: an index that
cannot be read counts as a full budget. -/
def getPlaceSendAttemptTimes (pick : ℕ → ℕ → ℕ) (c : Coordinator) (now : Int)
    (account executionDomain : String) (cutoffMs : Int) : Bool × List Int :=
  match g.readPlaceSendAttemptTimes pick account executionDomain cutoffMs c.placeSendAttemptKeys with
  | .error _ => (false, List.replicate 64 now)
  | .ok rows =>
    (true, rows.map SendRow.tsMs ++ c.placeSendAttemptTimes account executionDomain cutoffMs)

/-! ### Commands -/

/-- `OmsGenerationLookupStatus`, with the row that was found. -/
inductive Lookup
  | missing
  | error
  | found (row : CommandRow)
deriving DecidableEq

def lookupCommand (pick : ℕ → ℕ → ℕ) (key : CommandKey) : Lookup :=
  match Search.find pick (fun row => cmp row.key.sortKey key.sortKey) g.commandIndex
      g.commandIndex.length 0 g.commandIndex.length with
  | none => .missing
  | some row =>
    if row.key = key ∧ row.operation ≠ .unset ∧ row.status ≠ .unknown then .found row else .error

/-- `DecodeRequestKey`: exactly two separators, and no part empty. -/
def decodeRequestKey (key : String) : Option CommandKey :=
  match key.toList.splitOn '\x1f' with
  | [agentId, sessionId, commandId] =>
    if agentId = [] ∨ sessionId = [] ∨ commandId = [] then none
    else some ⟨String.ofList agentId, String.ofList sessionId, String.ofList commandId⟩
  | _ => none

def historicalStatus : RowStatus → ExecutionCommandStatus
  | .accepted => .accepted
  | .rejected => .rejected
  | .uncertain | .unknown => .uncertain

def historicalRecord (row : CommandRow) : RequestRecord where
  context :=
    { agentId := row.key.agentId
      sessionId := row.key.sessionId
      toolCallId := row.key.commandId
      account := row.account
      executionDomain := row.executionDomain }
  durableMutationIntent := row.durableMutationIntent
  status := historicalStatus row.status
  orderId := row.orderId
  reasonCode := row.reason
  requestHash := row.requestHash
  venueCorrelationId := row.venueCorrelationId
  operation := row.operation

/-- The record that stands for a command whose row cannot be read. -/
def unreadableRecord (key : CommandKey) : RequestRecord where
  context := { agentId := key.agentId, sessionId := key.sessionId, toolCallId := key.commandId }
  durableMutationIntent := true
  status := .uncertain
  reasonCode := "OMS_GENERATION_INDEX_FAILED"
  detail := "OMS_GENERATION_COMMAND_INDEX_INVALID"

/-- `LoadHistorical`: the record of a command that memory does not hold. -/
def loadHistorical (pick : ℕ → ℕ → ℕ) (key : String) : Option RequestRecord :=
  (decodeRequestKey key).bind fun commandKey =>
    match g.lookupCommand pick commandKey with
    | .missing => none
    | .error => some (unreadableRecord commandKey)
    | .found row => some (historicalRecord row)

end Generation

end Hepta
