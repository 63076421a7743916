import Hepta.Library.Fold
import Hepta.Library.Map
import Hepta.Execution.Recovery

/-!
# The projection of a sealed prefix

`_project_hot` of `hepta_oms_checkpoint.py`. A generation replaces the records of a sealed
prefix by the few that recovery still has to replay, the hot replay, by one row for every
command and by one row for every command that was sent.
-/

namespace Hepta.Checkpoint

/-! ### Identities -/

/-- `_agent_id`. The second form stands in old journals only. -/
def agentId (source : String) : String :=
  if "agent.tool:".toList.isPrefixOf source.toList then
    String.ofList (source.toList.drop "agent.tool:".toList.length)
  else if "agent:".toList.isPrefixOf source.toList then
    String.ofList (source.toList.drop "agent:".toList.length)
  else ""

structure CommandKey where
  agentId : String
  sessionId : String
  commandId : String
deriving DecidableEq, Repr

def CommandKey.complete (key : CommandKey) : Prop :=
  key.agentId ≠ "" ∧ key.sessionId ≠ "" ∧ key.commandId ≠ ""
deriving Decidable

variable (event : OmsJournalEvent)

def commandKey : CommandKey :=
  ⟨agentId event.source, event.traceId, event.commandId⟩

/-- `_hex`: the hexadecimal digits of the encoded text. -/
def hex (text : String) : List Char :=
  text.toUTF8.data.toList.flatMap fun byte =>
    [hexDigit (byte.toNat / 16), hexDigit (byte.toNat % 16)]

/-! ### Command rows -/

inductive RowStatus
  | unknown
  | accepted
  | rejected
  | uncertain
deriving DecidableEq, Repr

structure CommandRow where
  key : CommandKey
  requestHash : String := ""
  operation : Operation := .unset
  status : RowStatus := .unknown
  orderId : Int := -1
  reason : String := ""
  venueCorrelationId : String := ""
  lastSequence : Nat := 0
  account : String := ""
  executionDomain : String := ""
  durableMutationIntent : Bool := false
deriving DecidableEq, Repr

def startsWith (kind : EventType) (start : String) : Bool :=
  start.toList.isPrefixOf kind.name.toList

/-- The kinds that belong to a placement unless the command is known to be another. -/
def isPlaceKind : EventType → Bool
  | .orderIntent | .placeSendAttempt | .placeSent | .placeActivated | .placeOutcomeUncertain
  | .executionCommandResolved | .reject => true
  | _ => false

def operationOf (kind : EventType) (prior : Operation) : Operation :=
  if startsWith kind "flatten_" then .flatten
  else if startsWith kind "cancel_" || kind = .cancel then .cancel
  else if isPlaceKind kind then if prior = .unset then .place else prior
  else prior

def statusOf (prior : RowStatus) : RowStatus :=
  match event.eventType with
  | .orderIntent | .flattenIntent | .placeSendAttempt | .flattenSendAttempt
  | .placeOutcomeUncertain | .flattenOutcomeUncertain => .uncertain
  | .reject | .flattenReject => .rejected
  | .cancelSendAttempt => .uncertain
  | .cancel =>
    if event.status = "intent_recorded" ∨ event.status = "cancel_pending" then .uncertain
    else if event.status = "cancel_sent" then .accepted else prior
  | .placeSent => if event.status = "activation_pending" then .uncertain else .accepted
  | .placeActivated | .flattenSent | .flattenNoop => .accepted
  | .executionCommandResolved | .cancelCommandResolved =>
    if event.status = "accepted" then .accepted else .rejected
  | .executionProjectionFailed => .uncertain
  | _ => prior

def durableIntent : Bool :=
  event.eventType = .orderIntent || event.eventType = .flattenIntent ||
    (event.eventType = .cancel && event.status = "intent_recorded")

/-- A text that overrides an older one unless it is empty. -/
def orPrior (text prior : String) : String := if text = "" then prior else text

def CommandRow.hashConflict (row : CommandRow) (event : OmsJournalEvent) : Prop :=
  row.requestHash ≠ "" ∧ event.requestHash ≠ "" ∧ row.requestHash ≠ event.requestHash
deriving Decidable

def CommandRow.update (row : CommandRow) (event : OmsJournalEvent) (sequence : Nat) :
    CommandRow :=
  { row with
    requestHash := orPrior event.requestHash row.requestHash
    operation := operationOf event.eventType row.operation
    status := statusOf event row.status
    orderId := if 0 ≤ event.orderId then event.orderId else row.orderId
    reason := orPrior event.riskCode row.reason
    venueCorrelationId := orPrior event.venueCorrelationId row.venueCorrelationId
    account := orPrior event.account row.account
    executionDomain := orPrior event.executionDomain row.executionDomain
    durableMutationIntent := row.durableMutationIntent || durableIntent event
    lastSequence := sequence }

def updateCommand (commands : Dict CommandKey CommandRow) (event : OmsJournalEvent)
    (sequence : Nat) : Except String (Dict CommandKey CommandRow) :=
  let key := commandKey event
  let row := (commands.lookup key).getD { key }
  if ¬ key.complete then .ok commands
  else if row.hashConflict event then .error "OMS_GENERATION_COMMAND_HASH_CONFLICT"
  else .ok (commands.insert key (row.update event sequence))

/-! ### The projection -/

/-- The row of a command in the index of send attempts. -/
structure SendRow where
  account : String
  executionDomain : String
  tsMs : Int
  key : CommandKey
  sequence : Nat
deriving DecidableEq, Repr

/-- What `_project_hot` has gathered: the rows, and the positions of the records that it keeps
for the active orders, the fences, the terminal fence and the failed projection. -/
structure Projection where
  commands : Dict CommandKey CommandRow := ∅
  activeOwnerEvent : Dict Int Nat := ∅
  fenceEvent : Dict (String × String) Nat := ∅
  recoveryEvent : Dict (String × String) Nat := ∅
  accountEntryFenceEvent : Dict String Nat := ∅
  terminalFenceEvent : Option Nat := none
  projectionFailureEvent : Option Nat := none
  sendAttempts : Dict CommandKey SendRow := ∅

def sessionOwner : String × String :=
  (agentId event.source, event.traceId)

def namesOwner : Prop := agentId event.source ≠ "" ∧ event.traceId ≠ ""
deriving Decidable

namespace Projection

def stepFence (fences : Dict (String × String) Nat) (event : OmsJournalEvent) (index : Nat) :
    Dict (String × String) Nat :=
  if namesOwner event then
    match event.eventType with
    | .sessionOwnerFenced       => fences.insert (sessionOwner event) index
    | .sessionOwnerFenceRelease => fences.erase (sessionOwner event)
    | _                         => fences
  else fences

def stepRecovery (recoveries : Dict (String × String) Nat) (event : OmsJournalEvent)
    (index : Nat) : Dict (String × String) Nat :=
  if namesOwner event ∧ event.eventType = .sessionOwnerRecoveryOnly then
    recoveries.insert (sessionOwner event) index
  else recoveries

def isReceipt : EventType → Bool
  | .placeSent | .placeActivated | .flattenSent => true
  | _ => false

def stepOwner (owners : Dict Int Nat) (event : OmsJournalEvent) (index : Nat) : Dict Int Nat :=
  if isReceipt event.eventType ∧ 0 ≤ event.orderId ∧ agentId event.source ≠ "" then
    owners.insert event.orderId index
  else if event.eventType = .orderOwnerReconciledTerminal ∧ 0 ≤ event.orderId then
    owners.erase event.orderId
  else owners

/-- The kinds that show that a command was sent, or was about to be. -/
def isSend : EventType → Bool
  | .placeSendAttempt | .placeSent | .flattenSendAttempt | .flattenSent => true
  | _ => false

def stepSend (attempts : Dict CommandKey SendRow) (event : OmsJournalEvent) (sequence : Nat) :
    Dict CommandKey SendRow :=
  let key := commandKey event
  if key.complete ∧ isSend event.eventType then
    attempts.setDefault key ⟨event.account, event.executionDomain, event.tsMs, key, sequence⟩
  else attempts

/-- One turn of the loop of `_project_hot`; `index` counts from zero and the sequence from one. -/
def step (p : Projection) (event : OmsJournalEvent) (index : Nat) : Except String Projection :=
  if event.eventType = .accountNewEntryFenced ∧ event.account = "" then
    .error "OMS_ACCOUNT_NEW_ENTRY_FENCE_ACCOUNT_INVALID"
  else do
    let commands ← updateCommand p.commands event (index + 1)
    return {
      commands
      activeOwnerEvent := stepOwner p.activeOwnerEvent event index
      fenceEvent := stepFence p.fenceEvent event index
      recoveryEvent := stepRecovery p.recoveryEvent event index
      accountEntryFenceEvent :=
        if event.eventType = .accountNewEntryFenced then
          p.accountEntryFenceEvent.setDefault event.account index
        else p.accountEntryFenceEvent
      terminalFenceEvent :=
        if event.eventType = .paperTerminalFence then some index else p.terminalFenceEvent
      projectionFailureEvent :=
        if event.eventType = .executionProjectionFailed then some index
        else if event.eventType = .executionProjectionResolved then none
        else p.projectionFailureEvent
      sendAttempts := stepSend p.sendAttempts event (index + 1) }

/-- The commands whose outcome is open. -/
def isUncertain (p : Projection) (key : CommandKey) : Bool :=
  (p.commands.lookup key).any fun row => row.status = .uncertain

/-- The position belongs to a record that the hot replay keeps. -/
def selected (p : Projection) (events : List OmsJournalEvent) (index : Nat) : Bool :=
  p.activeOwnerEvent.values.contains index || p.fenceEvent.values.contains index ||
  p.recoveryEvent.values.contains index || p.accountEntryFenceEvent.values.contains index ||
  p.terminalFenceEvent = some index || p.projectionFailureEvent = some index ||
  (events[index]?).any fun event => p.isUncertain (commandKey event)

end Projection

/-- The loop of `_project_hot`. -/
def project (events : List OmsJournalEvent) : Except String Projection :=
  events.zipIdx.foldlM (fun p entry => p.step entry.1 entry.2) {}

/-- `hot_replay`: the selected records, in their order. -/
def hotReplay (events : List OmsJournalEvent) (p : Projection) : List OmsJournalEvent :=
  events.keepFrom (p.selected events) 0

/-- The order of the rows of the command index. -/
def CommandKey.sortKey (key : CommandKey) : List Char ×ₗ List Char ×ₗ List Char :=
  toLex (hex key.agentId, toLex (hex key.sessionId, hex key.commandId))

def commandRows (commands : Dict CommandKey CommandRow) : List CommandRow :=
  commands.values.insertionSort fun a b => a.key.sortKey ≤ b.key.sortKey

/-- The order of the rows of the send-attempt index. -/
def SendRow.sortKey (row : SendRow) :
    List Char ×ₗ List Char ×ₗ Int ×ₗ Nat ×ₗ List Char ×ₗ List Char ×ₗ List Char :=
  toLex (hex row.account, toLex (hex row.executionDomain, toLex (row.tsMs, toLex (row.sequence,
    row.key.sortKey))))

def sendRows (attempts : Dict CommandKey SendRow) : List SendRow :=
  attempts.values.insertionSort fun a b => a.sortKey ≤ b.sortKey

end Hepta.Checkpoint
