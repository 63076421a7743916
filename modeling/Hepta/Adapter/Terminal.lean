import Hepta.Adapter.State

/-!
# Terminal orders

What is known about the orders that have ended. A download by two requests is completed by live
callbacks about the orders that were sent in this connection: a callback counts for such an order only
if all that it says agrees with what was sent.
-/

namespace Hepta

/-! ### Contracts with an identity -/

namespace IBContractIdentity

def isSpace (c : Char) : Bool := c = ' ' || ('\t' ≤ c && c ≤ '\r')

def normalizeToken (text : String) : String :=
  let trimmed := ((text.toList.dropWhile isSpace).reverse.dropWhile isSpace).reverse
  String.ofList (trimmed.map Char.toUpper)

/-- Whether `BuildIBAuthoritativeInstrumentIdentity` gives a contract an identity. -/
def hasInstrumentIdentity (c : InstrumentRef) : Bool :=
  let given (text : String) := normalizeToken text ≠ ""
  let securityType := normalizeToken c.secType
  if securityType = "CASH" ∧ given c.symbol ∧ given c.currency then true
  else if securityType = "CRYPTO" then given c.symbol && given c.currency && given c.exchange
  else if securityType = "OPT" ∨ securityType = "FOP" ∨ securityType = "FUT" then
    let right := normalizeToken c.right
    given c.exchange && given c.currency &&
      (given c.localSymbol ||
        (given c.symbol && given c.lastTradeDateOrContractMonth &&
          (securityType = "FUT" ||
            ((right = "C" || right = "P" || right = "CALL" || right = "PUT") &&
              c.strike.isFinite && Double.zero.lt c.strike && given c.multiplier))))
  else given c.symbol

end IBContractIdentity

namespace HeptaIBGatewayAdapter

open IbVenueCorrelationCodec IBContractIdentity

variable (a : HeptaIBGatewayAdapter)

def binding (orderId : Int) : Option LiveTerminalBinding :=
  a.terminal.liveTerminalBindings.lookup orderId

/-! ### Callbacks about a bound order -/

/-- A status that the wrapper derives from an execution repeats what that execution said. -/
def supportedStatusSource (b : LiveTerminalBinding) (e : IBEvent) : Bool :=
  e.value = "" ||
    (e.value = "execDetails" && e.requestId = -1 && (e.key = "Filled" || e.key = "PartiallyFilled") &&
      b.cashQuantity.eq .zero && Double.zero.lt b.executionQuantity &&
      e.number2.eq b.executionQuantity && e.number.eq b.executionAveragePrice &&
      e.number3.eq (b.quantity.sub b.executionQuantity))

def isConsistentBoundOrderStatus (e : IBEvent) : Bool :=
  match a.binding e.id with
  | none => false
  | some b =>
    e.type = .orderStatus && decide (0 < e.id) && e.connectionEpoch ≠ 0 &&
      e.connectionEpoch = a.connectionEpoch && b.connectionEpoch = a.connectionEpoch &&
      decide (0 ≤ e.brokerClientId) && e.brokerClientId = a.cfg.clientId &&
      (e.account = "" || e.account = a.cfg.account) && supportedStatusSource b e &&
      b.quantity.isFinite && (Double.zero.lt b.cashQuantity || Double.zero.lt b.quantity) &&
      e.number2.isFinite && Double.zero.le e.number2 && e.number3.isFinite &&
      Double.zero.le e.number3 && (e.number2.add e.number3).isFinite &&
      (Double.zero.lt b.cashQuantity ||
        ibCallbackQuantitySumWithinTotal e.number2 e.number3 b.quantity) &&
      (e.number2.eq .zero || hasEconomicFillEvidence e) &&
      (e.key ≠ "Filled" ||
        (e.number3.eq .zero &&
          (if Double.zero.lt b.cashQuantity then Double.zero.lt e.number2
            else e.number2.eq b.quantity)))

def executionSide (value : String) : String :=
  if value = "BOT" then "BUY" else if value = "SLD" then "SELL" else value

def isConsistentBoundLiveExecution (e : IBEvent) : Bool :=
  match a.binding e.id with
  | none => false
  | some b =>
    e.type = .executionDetails && e.requestId = -1 && decide (0 < e.id) &&
      e.connectionEpoch ≠ 0 && e.connectionEpoch = a.connectionEpoch &&
      b.connectionEpoch = a.connectionEpoch && decide (0 ≤ e.brokerClientId) &&
      e.brokerClientId = a.cfg.clientId && e.key ≠ "" && a.cfg.account ≠ "" &&
      e.account = a.cfg.account && executionSide e.value = b.side && hasEconomicFillEvidence e &&
      b.quantity.isFinite && (Double.zero.lt b.cashQuantity || Double.zero.lt b.quantity) &&
      (Double.zero.lt b.cashQuantity || e.number2.le b.quantity) &&
      matchesSubmittedIBContract b.contract e.contract && hasInstrumentIdentity b.contract &&
      (decodeOrderRef e.order.orderRef).toOption = some b.correlationId

/-- Two statuses that say the same. -/
def sameNativeStatus (original e : IBEvent) : Bool :=
  original.requestId = e.requestId && original.key = e.key && original.number.eq e.number &&
    original.number2.eq e.number2 && original.number3.eq e.number3 &&
    original.whyHeld = e.whyHeld && original.marketCapPrice.eq e.marketCapPrice &&
    original.remainingQuantityKnown = e.remainingQuantityKnown

/-- The native final status of a bound order, repeated after it was published. -/
def isExactDuplicateNativeTerminalStatus (e : IBEvent) : Bool :=
  a.eventStreamAuthoritative && e.value = "" && e.economicsAbsent &&
    e.advancedOrderRejectJson = "" && a.isConsistentBoundOrderStatus e && isIbFinalStatus e.key &&
    (a.binding e.id).any fun b =>
      a.terminal.snapshot.complete && a.terminal.snapshot.connectionEpoch = a.connectionEpoch &&
        a.terminal.snapshot.terminalOrderIdsByCorrelation.lookup b.correlationId = some e.id &&
        a.terminal.snapshot.terminalStatusesByCorrelation.lookup b.correlationId = some e.key &&
        b.executionQuantity.eq e.number2 &&
        b.nativeTerminalStatus.any fun original => sameNativeStatus original e

/-! ### Publication of live evidence -/

/-- The order was executed, or ended with all that was executed known. -/
def liveTerminal (b : LiveTerminalBinding) : Bool :=
  b.terminalStatus ≠ "" && b.terminalFilledQuantity.eq b.executionQuantity &&
    (b.terminalStatus ≠ "Filled" ||
      (if Double.zero.lt b.cashQuantity then Double.zero.lt b.executionQuantity
        else b.executionQuantity.eq b.quantity))

def liveExecuted (b : LiveTerminalBinding) : Bool := Double.zero.lt b.executionQuantity

/-- The snapshot does not yet say what is known of the order. -/
def liveEvidenceChanged (s : IBAuthoritativeTerminalCorrelationSnapshot) (b : LiveTerminalBinding) :
    Bool :=
  (liveExecuted b && (b.correlationId ∉ s.executionCorrelations ||
      b.publishedExecutionQuantity.lt b.executionQuantity)) ||
    (liveTerminal b && ((s.terminalOrderIdsByCorrelation.lookup b.correlationId).isNone ||
      s.terminalStatusesByCorrelation.lookup b.correlationId ≠ some b.terminalStatus))

variable (v : TerminalView)

def published (exposureGeneration : ℕ) (orderId : Int) (b : LiveTerminalBinding) : TerminalView :=
  let s := v.snapshot
  { v with
    generation := v.generation + 1
    liveTerminalBindings :=
      if liveExecuted b then
        v.liveTerminalBindings.insert orderId
          { b with publishedExecutionQuantity := b.executionQuantity }
      else v.liveTerminalBindings
    snapshot :=
      { s with
        generation := v.generation + 1
        exposureGeneration
        executionCorrelations :=
          if liveExecuted b then insert b.correlationId s.executionCorrelations
          else s.executionCorrelations
        executionOrderIds :=
          if liveExecuted b then insert orderId s.executionOrderIds else s.executionOrderIds
        terminalOrderIdsByCorrelation :=
          if liveTerminal b then s.terminalOrderIdsByCorrelation.insert b.correlationId orderId
          else s.terminalOrderIdsByCorrelation
        terminalStatusesByCorrelation :=
          if liveTerminal b then
            s.terminalStatusesByCorrelation.insert b.correlationId b.terminalStatus
          else s.terminalStatusesByCorrelation } }

def publishLiveTerminalEvidence (orderId : Int) : HeptaIBGatewayAdapter :=
  let v := a.terminal
  let s := v.snapshot
  match a.binding orderId with
  | none => a
  | some b =>
    if !s.complete ∨ v.completedOrdersRefreshPending ∨ v.executionsRefreshPending ∨
        !a.eventStreamAuthoritative ∨ a.connectionEpoch = 0 ∨
        s.connectionEpoch ≠ a.connectionEpoch ∨ b.connectionEpoch ≠ a.connectionEpoch then a
    else if !liveExecuted b && !liveTerminal b then a
    else if liveTerminal b &&
        (s.terminalOrderIdsByCorrelation.lookup b.correlationId).any fun id => id ≠ orderId then
      a.invalidateTerminalCorrelationSnapshot "IB_LIVE_TERMINAL_CORRELATION_CONFLICT"
    else if !liveEvidenceChanged s b then a
    else if Api.intMax ≤ v.generation then
      a.invalidateTerminalCorrelationSnapshot "IB_TERMINAL_CORRELATION_GENERATION_EXHAUSTED"
    else { a with terminal := published v a.exposureGeneration orderId b }

def observedBinding (b : LiveTerminalBinding) (e : IBEvent) : Option LiveTerminalBinding :=
  if isIbOrderSizeParseRejection320 e then
    some { b with terminalStatus := "Rejected", terminalFilledQuantity := .zero }
  else if e.type = .executionDetails then
    if !a.isConsistentBoundLiveExecution e then none
    else if b.executionQuantity.le e.number2 then
      some { b with executionQuantity := e.number2, executionAveragePrice := e.number }
    else some b
  else if e.value = "execDetails" ∨ !a.isConsistentBoundOrderStatus e ∨ !isIbFinalStatus e.key then
    none
  else
    some
      { b with
        nativeTerminalStatus :=
          if e.value = "" ∧ e.economicsAbsent ∧ e.advancedOrderRejectJson = "" ∧
              e.number.isFinite ∧ e.marketCapPrice.isFinite then some e
          else none
        terminalStatus := e.key
        terminalFilledQuantity := e.number2 }

variable (e : IBEvent)

def applyLiveTerminalEvidence : HeptaIBGatewayAdapter :=
  let cashSizeParseRejected := isIbOrderSizeParseRejection320 e
  if (e.type ≠ .executionDetails ∧ e.type ≠ .orderStatus ∧ !cashSizeParseRejected) ∨
      e.connectionEpoch = 0 ∨ e.connectionEpoch ≠ a.connectionEpoch ∨
      (!cashSizeParseRejected ∧ (e.brokerClientId < 0 ∨ e.brokerClientId ≠ a.cfg.clientId)) ∨
      e.id ≤ 0 ∨ !a.eventStreamAuthoritative then a
  else match a.binding e.id with
    | none => a
    | some b =>
      if b.connectionEpoch ≠ a.connectionEpoch ∨ !b.quantity.isFinite ∨
          (b.cashQuantity.eq .zero ∧ b.quantity.le .zero) ∨ !e.number2.isFinite ∨
          e.number2.lt .zero ∨ (b.cashQuantity.eq .zero ∧ b.quantity.lt e.number2) then a
      else match a.observedBinding b e with
        | none => a
        | some b' =>
          { a with
            terminal := { a.terminal with
              liveTerminalBindings := a.terminal.liveTerminalBindings.insert e.id b' } }
            |>.publishLiveTerminalEvidence e.id

/-! ### The download -/

def reqTerminalCorrelations : Bool × HeptaIBGatewayAdapter :=
  let v := a.terminal
  if v.requestIssuedForEpoch then (false, a)
  else if v.completedOrdersRefreshPending || v.executionsRefreshPending then (false, a)
  else if !a.apiConnected then
    (false, a.invalidateTerminalCorrelationSnapshot "IB_TERMINAL_CORRELATION_REFRESH_DISCONNECTED")
  else if Api.intMax ≤ v.generation then
    (false, a.invalidateTerminalCorrelationSnapshot "IB_TERMINAL_CORRELATION_GENERATION_EXHAUSTED")
  else
    let generation := v.generation + 1
    (true,
      { a with
        terminal :=
          { v with
            generation
            requestIssuedForEpoch := true
            executionRequestId := generation
            completedOrdersRefreshPending := true
            executionsRefreshPending := true
            refreshConflict := false
            pendingOrderIds := ∅
            pendingStatuses := ∅
            pendingExecutionCorrelations := ∅
            pendingExecutionIdsByCorrelation := ∅
            snapshot :=
              { v.snapshot with
                connectionEpoch := a.connectionEpoch
                generation
                complete := false
                exposureGeneration := 0
                reasonCode := "IB_TERMINAL_CORRELATION_REFRESH_PENDING"
                terminalOrderIdsByCorrelation := ∅
                terminalStatusesByCorrelation := ∅
                executionOrderIds := ∅ } } })

/-- A download that cannot be used. -/
def rejectTerminal (connectionEpoch : ℕ) : TerminalView :=
  { v with
    snapshot :=
      { v.snapshot with
        connectionEpoch
        generation := v.generation
        complete := false
        reasonCode :=
          if v.snapshot.reasonCode = "" then "IB_TERMINAL_CORRELATION_REFRESH_NOT_AUTHORITATIVE"
          else v.snapshot.reasonCode
        terminalOrderIdsByCorrelation := ∅
        terminalStatusesByCorrelation := ∅
        executionCorrelations := ∅
        executionOrderIds := ∅ } }

def executionOrderIdConflict : Bool :=
  v.pendingExecutionIdsByCorrelation.entries.any fun execution =>
    (v.pendingOrderIds.lookup execution.1).any fun id => decide (0 < id) && id ≠ execution.2

/-- A completed order without an id has that of its execution. -/
def promotedOrderIds : Dict String Int :=
  v.pendingExecutionIdsByCorrelation.entries.foldl (fun ids execution =>
    if ids.lookup execution.1 = some 0 ∧ 0 < execution.2 then ids.insert execution.1 execution.2
    else ids) v.pendingOrderIds

/-- The orders that are said to be filled without an execution. -/
def unprovedFills (orderIds : Dict String Int) : List String :=
  (v.pendingStatuses.entries.filter fun status =>
    status.2 = "Filled" && ((orderIds.lookup status.1).isNone ||
      status.1 ∉ v.pendingExecutionCorrelations)).map Sigma.fst

def completeTerminal (connectionEpoch exposureGeneration : ℕ) : TerminalView :=
  let promoted := promotedOrderIds v
  let unproved := unprovedFills v promoted
  let orderIds := promoted.eraseAll unproved
  { v with
    pendingOrderIds := ∅
    pendingStatuses := ∅
    pendingExecutionCorrelations := ∅
    pendingExecutionIdsByCorrelation := ∅
    snapshot :=
      { connectionEpoch
        generation := v.generation
        complete := true
        exposureGeneration
        reasonCode := ""
        terminalOrderIdsByCorrelation := orderIds
        terminalStatusesByCorrelation := v.pendingStatuses.eraseAll unproved
        executionCorrelations := v.pendingExecutionCorrelations
        executionOrderIds := (v.pendingExecutionCorrelations.filter fun correlation =>
          ((orderIds.lookup correlation).any fun id => decide (0 < id)) = true).image fun correlation =>
            (orderIds.lookup correlation).getD 0 } }

/-- The live evidence that came before the download ended is published after it. -/
def publishAll : HeptaIBGatewayAdapter :=
  (a.terminal.liveTerminalBindings.keys.insertionSort (· ≤ ·)).foldl publishLiveTerminalEvidence a

def finalizeTerminalCorrelationSnapshot : HeptaIBGatewayAdapter :=
  let v := a.terminal
  if v.completedOrdersRefreshPending || v.executionsRefreshPending then a
  else if v.refreshConflict || !a.eventStreamAuthoritative then
    { a with terminal := rejectTerminal v a.connectionEpoch }
  else if executionOrderIdConflict v then
    (a.invalidateTerminalCorrelationSnapshot "IB_TERMINAL_EXECUTION_ORDER_ID_CONFLICT")
      |>.invalidateRiskSnapshot "IB_TERMINAL_EXECUTION_ORDER_ID_CONFLICT"
  else
    { a with terminal := completeTerminal v a.connectionEpoch a.exposureGeneration }.publishAll

/-- The download has a contradiction. -/
def terminalConflict (reason : String) : TerminalView :=
  { v with refreshConflict := true, snapshot := { v.snapshot with reasonCode := reason } }

/-- A completed order of the account, with the correlation that it was sent with. -/
def completedOrderItem (correlationId : String) : TerminalView :=
  if e.id < 0 then terminalConflict v "IB_TERMINAL_ORDER_ID_INVALID"
  else if !isIbFinalStatus e.key then terminalConflict v "IB_TERMINAL_ORDER_STATUS_NOT_FINAL"
  else if (v.pendingOrderIds.lookup correlationId).any fun id => id ≠ e.id then
    terminalConflict v "IB_TERMINAL_CORRELATION_DUPLICATE_CONFLICT"
  else
    { v with
      pendingOrderIds := v.pendingOrderIds.insert correlationId e.id
      pendingStatuses := v.pendingStatuses.insert correlationId e.key }

def executionItem (clientId : Int) (e : IBEvent) (correlationId : String) : TerminalView :=
  if e.brokerClientId ≠ clientId then terminalConflict v "IB_TERMINAL_EXECUTION_CLIENT_MISMATCH"
  else if e.key = "" then terminalConflict v "IB_TERMINAL_EXECUTION_ID_REQUIRED"
  else if (v.pendingExecutionIdsByCorrelation.lookup correlationId).any fun id => id ≠ e.id then
    terminalConflict v "IB_TERMINAL_EXECUTION_ORDER_ID_CONFLICT"
  else
    { v with
      pendingExecutionIdsByCorrelation := v.pendingExecutionIdsByCorrelation.insert correlationId e.id
      pendingExecutionCorrelations := insert correlationId v.pendingExecutionCorrelations }

/-- An item whose order reference is none of ours is passed over, unless it looks like ours. -/
def terminalItem (item : TerminalView → String → TerminalView) : TerminalView :=
  match decodeOrderRef e.order.orderRef with
  | .ok correlationId => item v correlationId
  | .error reason => if claimsHepta e.order.orderRef then terminalConflict v reason else v

def applyTerminalDownloadEvent : HeptaIBGatewayAdapter :=
  let v := a.terminal
  match e.type with
  | .completedOrder =>
    if !v.completedOrdersRefreshPending ∨ a.cfg.account = "" ∨ e.account ≠ a.cfg.account then a
    else { a with terminal := terminalItem v e fun v => completedOrderItem v e }
  | .completedOrdersEnd =>
    if !v.completedOrdersRefreshPending then a
    else
      { a with terminal := { v with completedOrdersRefreshPending := false } }
        |>.finalizeTerminalCorrelationSnapshot
  | .executionDetails =>
    if !v.executionsRefreshPending ∨ e.requestId ≠ v.executionRequestId ∨ a.cfg.account = "" ∨
        e.account ≠ a.cfg.account ∨ e.id ≤ 0 ∨ !hasEconomicFillEvidence e then a
    else { a with terminal := terminalItem v e fun v => executionItem v a.cfg.clientId e }
  | .executionDetailsEnd =>
    if !v.executionsRefreshPending ∨ e.requestId ≠ v.executionRequestId then a
    else
      { a with terminal := { v with executionsRefreshPending := false } }
        |>.finalizeTerminalCorrelationSnapshot
  | _ => a

def applyTerminalCorrelationEvent : HeptaIBGatewayAdapter :=
  (a.applyLiveTerminalEvidence e).applyTerminalDownloadEvent e

end HeptaIBGatewayAdapter

end Hepta
