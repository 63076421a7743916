import Mathlib.Data.Finset.Lattice.Basic
import Mathlib.Data.Finset.Sort
import Mathlib.Data.String.Basic
import Mathlib.Order.OrderDual
import Hepta.Accounting.Evidence
import Hepta.Library.Keyed

/-!
# Replaying the evidence of a period

`replay` goes over the records again and again: the commands of the owner, the executions and
statuses bound to them, the fees, the cancellations and the completed orders; then it settles the
commands in the order of their first send. The diagnostic parts of the result (the list of
executions, the witnesses, the book at the cumulative average) are left out.
-/

namespace Hepta

namespace Pnl

open Checked

/-! ### Commands -/

inductive CommandKind where
  | intent
  | send
  | reject
  deriving DecidableEq, Repr

def commandKind : PnlKind → Option CommandKind
  | .orderIntent | .flattenIntent => some .intent
  | .placeSent | .flattenSent => some .send
  | .reject => some .reject
  | _ => none

variable (scope : PnlScope) (e : PnlEvent)

/-- Execution ids that were observed before the period. -/
def oldExecutionId : Option String :=
  if e.event = .brokerExecution ∧ e.account = some scope.period.account ∧
      e.executionDomain = some "PAPER" ∧ e.instrument = some scope.instrument.name ∧
      e.brokerClientId = some scope.owner.brokerClientId ∧ e.source = some "ib-api-callback" ∧
      e.brokerCallbackType = some "execDetails" ∧ positiveInt e.tsMs ∧
      e.tsMs.getD 0 < scope.start then
    e.brokerExecutionId.filter fun id => decide (1 ≤ id.length ∧ id.length ≤ 128)
  else none

/-- Correlations of the commands before the period. -/
def oldCorrelation : Option String :=
  if owns scope e ∧ (commandKind e.event).isSome ∧ e.tsMs.getD 0 < scope.start then
    e.venueCorrelationId.filter (· ≠ "")
  else none

/-- A rejection that the coordinator writes only for a reliable outcome. -/
def reliableReject : Bool :=
  e.riskCode = some "IB_PLACE_REJECT" && e.status = some "rejected" && e.orderId = some (-1) &&
    isCorrelation e.venueCorrelationId && !blank e.reason

/-- A command of the owner: an entry under its kind and its id, with its time. The source keeps the
three kinds in a table each. -/
def readCommand : Except String (Option ((CommandKind × String) × Binding × Intᵒᵈ)) :=
  match owns scope e, commandKind e.event with
  | true, some kind => do
    let tsMs := e.tsMs.getD 0
    refuse (¬positiveInt e.tsMs ∨ scope.nowMs < tsMs) "COMMAND_TIME_INVALID"
    if tsMs < scope.start then .ok none
    else do
      let command := e.reqId.getD ""
      refuse (command = "" ∨ e.clientReqId ≠ some command) "ORIGINAL_COMMAND_IDENTITY_INVALID"
      refuse (kind = .send ∧ (¬isCorrelation e.venueCorrelationId ∨
          ¬e.orderId.any fun id => decide (0 ≤ id)))
        "ORIGINAL_SEND_BINDING_INVALID"
      if kind = .reject ∧ ¬reliableReject e then .ok none
      else .ok (some ((kind, command), binding e, OrderDual.toDual tsMs))
  | _, _ => .ok none

def commandConflict (key : CommandKind × String) (a b : Binding) : String :=
  if a.direction = none ∨ b.direction = none then "EXECUTION_SIDE_INVALID"
  else match key.1 with
    | .intent => "ORIGINAL_INTENT_BINDING_CONFLICT"
    | .send => "ORIGINAL_SEND_BINDING_CONFLICT"
    | .reject => "ORIGINAL_REJECT_BINDING_CONFLICT"

abbrev CommandTable := Dict (CommandKind × String) (Binding × Intᵒᵈ)

def commandTable (events : List PnlEvent) : Except String CommandTable :=
  Keyed.run sameBinding commandConflict (readCommand scope) events

/-- The first send of a command. -/
structure Sent where
  reqId : String
  venueCorrelationId : Option String
  orderId : Option Int
  hasSide : Bool
  direction : Option Direction
  tsMs : Int
  deriving DecidableEq, Repr

def sentOf (entry : (_ : CommandKind × String) × (Binding × Intᵒᵈ)) : Option Sent :=
  if entry.1.1 = .send then
    some
      { reqId := entry.1.2
        venueCorrelationId := entry.2.1.venueCorrelationId
        orderId := entry.2.1.orderId
        hasSide := entry.2.1.hasSide
        direction := entry.2.1.direction
        tsMs := OrderDual.ofDual entry.2.2 }
  else none

def sends (table : CommandTable) : List Sent := table.entries.filterMap sentOf

/-- `side(sent["side"])`: the first send may have no side. -/
def Sent.side (sent : Sent) : Except PnlError Direction :=
  if sent.hasSide then Pnl.side sent.direction else .error (.key "side")

/-- An intent that was rejected must have been rejected as it was meant, and not sent. -/
def checkReject (table : CommandTable)
    (entry : (_ : CommandKind × String) × (Binding × Intᵒᵈ)) : Except String Unit :=
  match entry.1.1, table.lookup (.intent, entry.1.2) with
  | .reject, some (intent, _) => do
    refuse (¬sameBinding intent entry.2.1)
      (commandConflict (.reject, entry.1.2) intent entry.2.1)
    refuse ((CommandKind.send, entry.1.2) ∈ table) "ORIGINAL_SEND_AND_REJECT_CONFLICT"
  | _, _ => .ok ()

/-- The checks on the commands before the executions are read. -/
def checkCommands (table : CommandTable) : Except String Unit := do
  table.entries.forM (checkReject table)
  refuse (∃ key ∈ table.keys, key.1 = .intent ∧ (CommandKind.send, key.2) ∉ table ∧
      (CommandKind.reject, key.2) ∉ table)
    "ORIGINAL_SEND_OUTCOME_UNPROVEN"
  refuse (¬((sends table).map Sent.venueCorrelationId).Nodup) "CORRELATION_COMMAND_CONFLICT"

def byCorrelation (sent : List Sent) (correlation : Option String) : Option Sent :=
  sent.find? fun s => s.venueCorrelationId = correlation

/-! ### Executions and statuses -/

structure FillSignature where
  command : String
  correlation : Option String
  orderId : Option Int
  direction : Direction
  cumulative : ℚ
  average : ℚ
  /-- The shares, the price, the contract and the permanent order of one execution. -/
  econ : Option (ℚ × ℚ × Option Int × Option Int)
  deriving DecidableEq, Repr

inductive BrokerRead where
  | pass
  | status (sent : Sent)
  /-- A status without a contract, until an execution of its epoch vouches for it. -/
  | subjectless (sent : Sent)
  | fill (executionId : String) (signature : FillSignature) (epoch : Epoch)

/-- What the executions are read against. -/
structure BrokerScope extends PnlScope where
  oldExecutionIds : List String
  oldCorrelations : List String
  sent : List Sent

/-- An execution or a status that belongs to no command of the period. -/
def readUnbound (scope : BrokerScope) (e : PnlEvent) : Except String BrokerRead :=
  if e.event = .brokerExecution ∧ e.account = some scope.period.account ∧
      e.instrument = some scope.instrument.name ∧
      e.brokerClientId = some scope.owner.brokerClientId ∧ scope.start ≤ e.tsMs.getD 0 then do
    refuse (e.brokerRequestId = some (-1)) "PRE_PERIOD_LATE_LIVE_EXECUTION"
    let historical := e.source = some "ib-api-callback" ∧
      e.brokerCallbackType = some "execDetails" ∧ e.executionDomain = some "PAPER" ∧
      ∃ id ∈ e.brokerExecutionId, id ∈ scope.oldExecutionIds
    refuse (¬(∃ c ∈ e.venueCorrelationId, c ∈ scope.oldCorrelations) ∧ ¬historical)
      "UNBOUND_OWN_EXECUTION"
    .ok .pass
  else .ok .pass

def isSubjectless : Bool :=
  e.event = .brokerOrderStatus && e.brokerCallbackType = some "orderStatus" &&
    e.source = some "ib-api-callback" && blank e.instrument && blank e.side

/-- The economics of one execution. -/
def readEcon (quantity average : ℚ) : Except String (Option (ℚ × ℚ × Option Int × Option Int)) :=
  if e.brokerEconVersion = none then .ok none
  else do
    refuse (e.brokerEconVersion ≠ some 1 ∨ e.brokerEconValid ≠ some 1 ∨
        e.brokerEconKind ≠ some "EXECUTION" ∨ e.brokerEconPriceRevisionPending ≠ some 0)
      "EXECUTION_ECONOMICS_INVALID_OR_REVISION_PENDING"
    let subject ← contractSubject scope e.brokerEconContractIdentity
    refuse (subject ≠ scope.instrument.subject) "ECONOMIC_CONTRACT_SUBJECT_MISMATCH"
    let shares ← number e.brokerEconShares
    let price ← number e.brokerEconExecutionPrice
    refuse (shares ≤ 0 ∨ price ≤ 0 ∨ quantity < shares ∨ ¬positiveInt e.brokerEconContractId ∨
        ¬e.brokerEconPermanentOrderId.any fun id => decide (0 ≤ id))
      "EXECUTION_ECONOMICS_INCONSISTENT"
    let cumulative ← number e.brokerEconCumulativeQuantity
    refuse (quantity ≠ cumulative) "EXECUTION_ECONOMICS_INCONSISTENT"
    let cumulativeAverage ← number e.brokerEconCumulativeAverage
    refuse (average ≠ cumulativeAverage) "EXECUTION_ECONOMICS_INCONSISTENT"
    .ok (some (shares, price, e.brokerEconContractId, e.brokerEconPermanentOrderId))

def readFill (sent : Sent) (e : PnlEvent) : Except String BrokerRead := do
  refuse (e.brokerCallbackType ≠ some "execDetails") "EXECUTION_CALLBACK_INVALID"
  let executionId := e.brokerExecutionId.getD ""
  refuse (executionId.length < 1 ∨ 128 < executionId.length) "EXECUTION_ID_INVALID"
  let quantity ← number e.qty
  let average ← number e.price
  refuse (quantity ≤ 0 ∨ average ≤ 0) "EXECUTION_ECONOMICS_INVALID"
  let econ ← readEcon scope e quantity average
  let direction ← side (readSide e.side)
  .ok (.fill executionId
    { command := sent.reqId
      correlation := e.venueCorrelationId
      orderId := sent.orderId
      direction
      cumulative := quantity
      average
      econ } (epoch e))

def checkSubject (sent : Sent) (e : PnlEvent) : Except PnlError Unit := do
  let conflict := "BROKER_EXECUTION_BINDING_CONFLICT"
  refuse (e.account ≠ some scope.period.account ∨ e.executionDomain ≠ some "PAPER" ∨
    e.brokerClientId ≠ some scope.owner.brokerClientId ∨ e.orderId ≠ sent.orderId) conflict
  checkIf (!isSubjectless e) do
    refuse (e.instrument ≠ some scope.instrument.name) conflict
    let direction ← side (readSide e.side)
    let sentDirection ← sent.side
    refuse (direction ≠ sentDirection) conflict
  refuse (¬(blank e.reqId ∨ e.reqId = some sent.reqId) ∨
    ¬(blank e.traceId ∨ e.traceId = some scope.owner.sessionId)) conflict

def checkEpoch (sent : Sent) (e : PnlEvent) : Except String Unit :=
  refuse (¬positiveInt e.tsMs ∨ scope.nowMs < e.tsMs.getD 0 ∨ e.tsMs.getD 0 < sent.tsMs ∨
      blank e.brokerServiceEpoch ∨ ¬positiveInt e.brokerConnectionEpoch)
    "BROKER_EXECUTION_EPOCH_OR_TIME_INVALID"

def readBroker (scope : BrokerScope) (e : PnlEvent) : Except PnlError BrokerRead :=
  if e.event ≠ .brokerExecution ∧ e.event ≠ .brokerOrderStatus then .ok .pass
  else match byCorrelation scope.sent e.venueCorrelationId with
    | none => readUnbound scope e
    | some sent => do
      checkSubject scope.toPnlScope sent e
      checkEpoch scope.toPnlScope sent e
      if e.event = .brokerOrderStatus then
        if isSubjectless e then .ok (.subjectless sent)
        else if e.brokerCallbackType = some "orderStatus" then .ok (.status sent)
        else .ok .pass
      else readFill scope.toPnlScope sent e

/-- The entry of an execution: executions of one id have one signature and join their epochs. -/
def readFillEntry (scope : BrokerScope) (e : PnlEvent) :
    Except PnlError (Option (String × FillSignature × Finset Epoch)) := do
  match ← readBroker scope e with
  | .fill executionId signature epoch => .ok (some (executionId, signature, {epoch}))
  | _ => .ok none

abbrev FillTable := Dict String (FillSignature × Finset Epoch)

def fillTable (scope : BrokerScope) (events : List PnlEvent) : Except PnlError FillTable :=
  Keyed.run (fun a b => a = b) (fun _ _ _ => "EXECUTION_ID_REPLAY_CONFLICT") (readFillEntry scope)
    events

variable (fills : FillTable)

/-- An execution id of the period must not name an execution of another subject. -/
def collides (e : PnlEvent) : Bool :=
  e.event = .brokerExecution &&
    (e.brokerExecutionId.bind fun id => fills.lookup id).any fun fill =>
      e.account ≠ some scope.period.account ||
        e.brokerClientId ≠ some scope.owner.brokerClientId ||
        e.venueCorrelationId ≠ fill.1.correlation

/-- An execution of the same command, order and epoch vouches for a status without a contract. -/
def vouched (sent : Sent) (e : PnlEvent) : Bool :=
  fills.entries.any fun fill =>
    fill.2.1.command = sent.reqId && fill.2.1.correlation = e.venueCorrelationId &&
      fill.2.1.orderId = e.orderId && decide (epoch e ∈ fill.2.2)

def statusOf (scope : BrokerScope) (command : String) (e : PnlEvent) : Bool :=
  match readBroker scope e with
  | .ok (.status sent) | .ok (.subjectless sent) => sent.reqId = command
  | _ => false

/-- A status without a contract that no execution vouches for. -/
def unvouched (scope : BrokerScope) (fills : FillTable) (e : PnlEvent) : Bool :=
  match readBroker scope e with
  | .ok (.subjectless sent) => !vouched fills sent e
  | _ => false

/-! ### Fees -/

structure Fees where
  fees : Dict String (ℚ × String) := ∅
  conflicts : Finset String := ∅

def readFee (epochs : Finset Epoch) (e : PnlEvent) : Except String (ℚ × String) := do
  refuse (e.brokerCallbackType ≠ some "commissionReport" ∨ epoch e ∉ epochs ∨
      e.brokerEconVersion ≠ some 1 ∨ e.brokerEconValid ≠ some 1 ∨
      e.brokerEconKind ≠ some "COMMISSION" ∨ ¬blank e.account ∨ e.orderId ≠ some (-1) ∨
      ¬positiveInt e.tsMs ∨ e.tsMs.getD 0 < scope.start ∨ scope.nowMs < e.tsMs.getD 0)
    "FEE_EVIDENCE_INVALID"
  let fee ← number e.brokerEconCommission
  let currency := e.brokerEconCommissionCurrency.getD ""
  refuse (1000000 < |fee| ∨ currency.length ≠ 3 ∨ ¬currency.toList.all Char.isUpper)
    "FEE_EVIDENCE_INVALID"
  .ok (fee, currency)

/-- The commission that a record reports, if it is about an execution of the period. -/
def feeOf (e : PnlEvent) : Option (String × Except String (ℚ × String)) :=
  if e.event = .brokerCommission then
    e.brokerExecutionId.bind fun id =>
      (fills.lookup id).map fun fill => (id, readFee scope fill.2 e)
  else none

/-- The last valid report counts; reports that are not valid or that differ are a conflict. -/
def reportStep (acc : Fees) : String × Except String (ℚ × String) → Fees
  | (id, .error _) => { acc with conflicts := insert id acc.conflicts }
  | (id, .ok fee) =>
    { fees := acc.fees.insert id fee
      conflicts :=
        if (acc.fees.lookup id).any (· ≠ fee) then insert id acc.conflicts else acc.conflicts }

def readFees (events : List PnlEvent) : Fees :=
  (events.filterMap (feeOf scope fills)).foldl reportStep {}

/-- The executions without a fee. -/
def feeMissing (fees : Fees) : Finset String :=
  fills.keys.toFinset \ fees.fees.keys.toFinset

def feesComplete (fees : Fees) : Bool :=
  feeMissing fills fees = ∅ && fees.conflicts = ∅ &&
    fees.fees.entries.all fun entry => entry.2.2 = "USD"

/-- The fee that the book takes. -/
def usableFee (fees : Fees) (executionId : String) : ℚ :=
  match fees.fees.lookup executionId with
  | some (fee, currency) =>
    if currency = "USD" ∧ executionId ∉ fees.conflicts then fee else 0
  | none => 0

/-! ### Cancellations and completed orders -/

variable (sent : List Sent)

/-- The broker's cancellation of the rest of an order. -/
def readCancel (e : PnlEvent) : Except PnlError (Option Sent) :=
  if e.event ≠ .brokerError ∨ e.riskCode ≠ some "IB_ERROR_202" then .ok none
  else match byCorrelation sent e.venueCorrelationId with
    | none => .ok none
    | some sent => do
      let conflict := "BROKER_CANCEL_202_BINDING_CONFLICT"
      refuse (e.brokerCallbackType ≠ some "error" ∨ e.status ≠ some "Cancelled" ∨
          e.source ≠ some ("agent:" ++ scope.owner.agentId) ∨ e.reqId ≠ some sent.reqId ∨
          e.clientReqId ≠ some sent.reqId ∨ e.account ≠ some scope.period.account ∨
          e.executionDomain ≠ some "PAPER" ∨ e.instrument ≠ some scope.instrument.name ∨
          e.brokerClientId ≠ some (-1) ∨ e.brokerRequestId ≠ some 0 ∨
          e.brokerErrorCode ≠ some 202 ∨ e.traceId ≠ some scope.owner.sessionId ∨
          e.orderId ≠ sent.orderId) conflict
      let direction ← side (readSide e.side)
      let sentDirection ← sent.side
      refuse (direction ≠ sentDirection) conflict
      refuse (blank e.brokerServiceEpoch ∨ ¬positiveInt e.brokerConnectionEpoch ∨
          ¬positiveInt e.tsMs ∨ e.tsMs.getD 0 < sent.tsMs ∨ scope.nowMs < e.tsMs.getD 0)
        "BROKER_CANCEL_202_TIME_OR_EPOCH_INVALID"
      .ok (some sent)

def isCompleted (sent : Sent) (e : PnlEvent) : Bool :=
  e.event = .brokerCompletedOrder && e.source = some "ib-api-callback" &&
    e.brokerCallbackType = some "completedOrder" && e.status = some "Filled" &&
    e.riskCode = some "IB_FILLED_ECONOMIC_EVIDENCE_REQUIRED" && e.brokerErrorCode = some 0 &&
    e.brokerClientId = some 0 && e.orderId = some 0 && e.account = some scope.period.account &&
    e.executionDomain = some "PAPER" && blank e.instrument && blank e.side &&
    (blank e.reqId || e.reqId = some sent.reqId) &&
    (blank e.traceId || e.traceId = some scope.owner.sessionId) && !blank e.brokerServiceEpoch &&
    positiveInt e.brokerConnectionEpoch && positiveInt e.tsMs &&
    decide (sent.tsMs ≤ e.tsMs.getD 0) && decide (e.tsMs.getD 0 ≤ scope.nowMs)

/-- The owner's reconciliation of an order. -/
def readOwnerTerminal (sent : Sent) (e : PnlEvent) : Except PnlError Bool :=
  if e.source ≠ some ("agent.tool:" ++ scope.owner.agentId) ∨ e.status ≠ some "terminal" ∨
      e.riskCode ≠ some "ORDER_OWNER_RECONCILED_TERMINAL" ∨
      e.account ≠ some scope.period.account ∨ e.executionDomain ≠ some "PAPER" ∨
      e.instrument ≠ some scope.instrument.name then .ok false
  else do
    let direction ← side (readSide e.side)
    let sentDirection ← sent.side
    .ok (direction = sentDirection && e.traceId = some scope.owner.sessionId &&
      e.orderId = sent.orderId && !blank e.reqId && e.clientReqId = e.reqId &&
      positiveInt e.tsMs && decide (sent.tsMs ≤ e.tsMs.getD 0) &&
      decide (e.tsMs.getD 0 ≤ scope.nowMs))

inductive TerminalRead where
  | pass
  | completed (sent : Sent)
  | owner (sent : Sent)

def readTerminal (e : PnlEvent) : Except PnlError TerminalRead :=
  match byCorrelation sent e.venueCorrelationId with
  | none => .ok .pass
  | some sent =>
    if e.event = .brokerCompletedOrder then
      .ok (if isCompleted scope sent e then .completed sent else .pass)
    else if e.event = .orderOwnerReconciledTerminal then do
      .ok (if ← readOwnerTerminal scope sent e then .owner sent else .pass)
    else .ok .pass

variable (command : String)

/-- The cancellations, completed orders and reconciliations of a command. -/
def cancelOf (e : PnlEvent) : Bool :=
  match readCancel scope sent e with
  | .ok (some s) => s.reqId = command
  | _ => false

def completedOf (e : PnlEvent) : Bool :=
  match readTerminal scope sent e with
  | .ok (.completed s) => s.reqId = command
  | _ => false

def ownerTerminalOf (e : PnlEvent) : Bool :=
  match readTerminal scope sent e with
  | .ok (.owner s) => s.reqId = command
  | _ => false

/-! ### Settlement -/

structure Fill where
  executionId : String
  signature : FillSignature
  epochs : Finset Epoch
  deriving DecidableEq

/-- The executions of a command. -/
def fillsOf : List Fill :=
  fills.entries.filterMap fun entry =>
    if entry.2.1.command = command then some ⟨entry.1, entry.2.1, entry.2.2⟩ else none

/-- An execution id without its revision. -/
def family (executionId : String) : String :=
  if '.' ∈ executionId.toList then
    String.ofList ((executionId.toList.reverse.dropWhile (· ≠ '.')).drop 1).reverse
  else executionId

/-- The state of the loop over the executions of a command. -/
structure PointWalk where
  book : Book
  previousQuantity : ℚ := 0
  previousNotional : ℚ := 0
  individualNotional : ℚ := 0
  families : List String := []

/-- The price of an execution and the notional so far: of the execution itself, or of the
difference of the cumulative averages. -/
def pointPrice (tolerance : ℚ) (w : PointWalk) (fill : FillSignature) (delta notional : ℚ) :
    Except String (ℚ × ℚ) :=
  match fill.econ with
  | none => .ok ((notional - w.previousNotional) / delta, notional)
  | some (shares, price, _) => do
    refuse (tolerance < |shares - delta|) "EXECUTION_SHARES_GAP"
    let individualNotional := w.individualNotional + delta * price
    refuse (max (1 / 10 ^ 8) (fill.cumulative * (1 / 10 ^ 6)) < |individualNotional - notional|)
      "EXECUTION_NOTIONAL_CONFLICT"
    .ok (price, individualNotional)

def pointStep (tolerance : ℚ) (fees : Fees) (w : PointWalk) (fill : Fill) :
    Except String PointWalk := do
  refuse (family fill.executionId ∈ w.families) "EXECUTION_CORRECTION_REQUIRES_RECONCILIATION"
  let delta := fill.signature.cumulative - w.previousQuantity
  let notional := fill.signature.cumulative * fill.signature.average
  if h : 0 < delta ∧ w.previousNotional < notional then do
    let (price, individualNotional) ← pointPrice tolerance w fill.signature delta notional
    .ok
      { book := w.book.apply
          { direction := fill.signature.direction
            quantity := delta
            price
            fee := usableFee fees fill.executionId
            quantity_pos := h.1 }
        previousQuantity := fill.signature.cumulative
        previousNotional := notional
        individualNotional
        families := family fill.executionId :: w.families }
  else .error "CUMULATIVE_EXECUTION_CONFLICT"

def terminals : List String := ["Filled", "Cancelled", "ApiCancelled", "Rejected", "Inactive"]

def isTerminal (e : PnlEvent) : Bool := e.status.any fun status => status ∈ terminals

/-- A terminal status of a command without executions: nothing was filled. -/
def checkZeroFill (e : PnlEvent) : Except String Unit := do
  let failed := "SUBMITTED_COMMAND_WITHOUT_FILL_OR_ZERO_FILL_PROOF"
  refuse (e.status = some "Filled") failed
  let quantity ← number e.qty
  refuse (quantity ≠ 0) failed
  let price ← number e.price
  refuse (price ≠ 0) failed

/-- A terminal status of a command with executions: it says what they add up to. -/
def checkTotal (tolerance previousQuantity average : ℚ) (e : PnlEvent) : Except String Unit := do
  let failed := "TERMINAL_EXECUTION_TOTAL_CONFLICT"
  let quantity ← number e.qty
  refuse (tolerance < |quantity - previousQuantity|) failed
  let price ← number e.price
  refuse (1 / 10 ^ 6 < |price - average|) failed

/-- The records about a command besides its executions. -/
structure CommandEvents where
  statuses : List PnlEvent
  cancels : List PnlEvent
  completed : List PnlEvent
  ownerTerminals : List PnlEvent

/-- A status that is not terminal came later. -/
def reopened (events : CommandEvents) (tsMs : Int) : Bool :=
  events.statuses.any fun e => decide (tsMs < e.tsMs.getD 0) && !isTerminal e

/-- A record of an epoch of some execution. -/
def inEpochs (points : List Fill) (e : PnlEvent) : Bool :=
  points.any fun fill => epoch e ∈ fill.epochs

/-- The broker cancelled the rest of the order, and nothing came after it. -/
def cancelled (points : List Fill) (events : CommandEvents) : Bool :=
  let matched := events.cancels.filter (inEpochs points)
  matched.any fun last => matched.all (fun e => decide (e.tsMs.getD 0 ≤ last.tsMs.getD 0)) &&
    !reopened events (last.tsMs.getD 0)

/-- The owner's reconciliation is confirmed by a completed order of the epoch of an execution. -/
def reconciled (points : List Fill) (events : CommandEvents) : Bool :=
  events.ownerTerminals.any fun owner => !reopened events (owner.tsMs.getD 0) &&
    events.completed.any fun completed =>
      decide (completed.tsMs.getD 0 ≤ owner.tsMs.getD 0) && inEpochs points completed

structure Settlement where
  book : Book
  unsettled : List String := []

/-- Whether a command is settled after its executions: by a terminal status, by a cancellation of the
rest or by a reconciliation that the broker confirms. -/
def conclude (tolerance : ℚ) (points : List Fill) (events : CommandEvents) (sent : Sent)
    (unsettled : List String) (w : PointWalk) : Except String Settlement :=
  let terminal := events.statuses.filter isTerminal
  match points.getLast? with
  | none => do
    refuse (terminal = []) "SUBMITTED_COMMAND_WITHOUT_FILL_OR_ZERO_FILL_PROOF"
    terminal.forM checkZeroFill
    .ok { book := w.book, unsettled }
  | some last =>
    if terminal ≠ [] then do
      terminal.forM (checkTotal tolerance w.previousQuantity last.signature.average)
      .ok { book := w.book, unsettled }
    else if cancelled points events ∨ reconciled points events then .ok { book := w.book, unsettled }
    else .ok { book := w.book, unsettled := unsettled ++ [sent.reqId] }

/-- The executions in the order of their cumulative quantities. -/
def pointsOf (fills : List Fill) : List Fill :=
  fills.insertionSort fun p q => p.signature.cumulative ≤ q.signature.cumulative

def settle (tolerance : ℚ) (fees : Fees) (fills : List Fill) (events : CommandEvents) (sent : Sent)
    (acc : Settlement) : Except String Settlement := do
  refuse (128 < (pointsOf fills).length) "EXECUTION_CAPACITY_EXCEEDED"
  let w ← (pointsOf fills).foldlM (pointStep tolerance fees) { book := acc.book }
  conclude tolerance (pointsOf fills) events sent acc.unsettled w

/-- The order in which the commands are settled. -/
def sentLe (a b : Sent) : Bool :=
  decide (a.tsMs < b.tsMs) || (a.tsMs = b.tsMs && decide (a.reqId.toList ≤ b.reqId.toList))

/-- What the settlement reads. -/
structure Books where
  sent : List Sent
  fills : FillTable
  fees : Fees
  events : String → CommandEvents

/-- The book at the start of the period. -/
def openingBook (owner : PnlOwner) : Except String Book := do
  let quantity ← number owner.openingQuantity
  if quantity = 0 then .ok (Book.opening quantity 0)
  else do
    let mark ← number owner.openingMark
    .ok (Book.opening quantity mark)

def settleAll (books : Books) : Except String Settlement := do
  let book ← openingBook scope.owner
  (books.sent.insertionSort fun a b => sentLe a b).foldlM
    (fun acc sent => settle scope.instrument.tolerance books.fees
      (fillsOf books.fills sent.reqId) (books.events sent.reqId) sent acc)
    { book }

/-! ### Replay -/

structure PnlResult where
  book : Book
  feesComplete : Bool
  feeMissingExecutionIds : List String
  feeConflictingExecutionIds : List String
  settlementPendingCommandIds : List String
  commandCount : ℕ
  executionCount : ℕ

def brokerScope (events : List PnlEvent) : Except String BrokerScope := do
  let table ← commandTable scope events
  checkCommands table
  .ok
    { toPnlScope := scope
      oldExecutionIds := events.filterMap (oldExecutionId scope)
      oldCorrelations := events.filterMap (oldCorrelation scope)
      sent := sends table }

def booksOf (scope : BrokerScope) (fills : FillTable) (events : List PnlEvent) : Books :=
  { sent := scope.sent
    fills
    fees := readFees scope.toPnlScope fills events
    events := fun command =>
      { statuses := events.filter (statusOf scope command)
        cancels := events.filter (cancelOf scope.toPnlScope scope.sent command)
        completed := events.filter (completedOf scope.toPnlScope scope.sent command)
        ownerTerminals := events.filter (ownerTerminalOf scope.toPnlScope scope.sent command) } }

/-- The passes after the commands. -/
def readBooks (scope : BrokerScope) (events : List PnlEvent) : Except PnlError Books := do
  let fills ← fillTable scope events
  refuse (∃ e ∈ events, collides scope.toPnlScope fills e) "CROSS_SUBJECT_EXECUTION_ID_COLLISION"
  refuse (∃ e ∈ events, unvouched scope fills e)
    "ORDER_STATUS_SUBJECT_REQUIRES_SAME_EPOCH_EXECUTION"
  events.forM fun e => do let _ ← readCancel scope.toPnlScope scope.sent e
  events.forM fun e => do let _ ← readTerminal scope.toPnlScope scope.sent e
  .ok (booksOf scope fills events)

def resultOf (books : Books) (settlement : Settlement) : PnlResult :=
  { book := settlement.book
    feesComplete := feesComplete books.fills books.fees
    feeMissingExecutionIds := (feeMissing books.fills books.fees).sort
    feeConflictingExecutionIds := books.fees.conflicts.sort
    settlementPendingCommandIds := settlement.unsettled
    commandCount := books.sent.length
    executionCount := books.fills.keys.length }

def replay (events : List PnlEvent) : Except PnlError PnlResult := do
  let scope ← brokerScope scope events
  let books ← readBooks scope events
  let settlement ← settleAll scope.toPnlScope books
  .ok (resultOf books settlement)

end Pnl

end Hepta
