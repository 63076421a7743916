import Hepta.Execution.TerminalFence

/-!
# Events of the IB adapter

The wrapper of the IB client (`ib_api_wrapper.h`) turns callbacks into `IBEvent`s and the gateway
adapter takes them from a queue. The record has the fields that the adapter reads. Order ids and
request ids are integers; on the supported platforms a `long long` fits into a `long`.
-/

namespace Hepta

/-! ### Arithmetic of doubles -/

namespace Double

def infinityBits : ℕ := 2047 * 2 ^ 52

/-- The value of the bits of a positive double. Infinity stands one step above the largest finite
double. -/
def magnitude (bits : ℕ) : ℚ :=
  if bits / 2 ^ 52 = 0 then bits / 2 ^ 1074
  else (2 ^ 52 + bits % 2 ^ 52 : ℕ) * 2 ^ (bits / 2 ^ 52) / 2 ^ 1075

/-- The bits of the largest double that is at most `x`, found from the highest bit downwards. -/
def truncate (x : ℚ) : ℕ → ℕ → ℕ
  | 0, bits => bits
  | k + 1, bits =>
    let next := bits + 2 ^ k
    truncate x k (if next ≤ infinityBits ∧ magnitude next ≤ x then next else bits)

/-- Rounding to the nearest double, ties to the even one. -/
def roundMagnitude (x : ℚ) : ℕ :=
  let bits := truncate x 63 0
  if bits = infinityBits then bits
  else
    let below := x - magnitude bits
    let above := magnitude (bits + 1) - x
    if below < above ∨ (below = above ∧ bits % 2 = 0) then bits else bits + 1

def ofRat (x : ℚ) : Double :=
  ⟨BitVec.ofNat 64 ((if x < 0 then 2 ^ 63 else 0) + roundMagnitude |x|)⟩

/-- The sum of finite doubles. -/
def add (a b : Double) : Double := ofRat (a.toRat + b.toRat)

/-- The difference of finite doubles. -/
def sub (a b : Double) : Double := ofRat (a.toRat - b.toRat)

/-- `std::isnormal`. -/
def isNormal (d : Double) : Bool := d.exponent ≠ 0 && d.exponent ≠ 2047

/-- `std::nextafter` of a positive finite double towards infinity. -/
def nextUp (d : Double) : Double := ⟨d.bits + 1⟩

/-- The literal `1e-6`. -/
def micro : Double := ofRat (1 / 10 ^ 6)

end Double

/-- A digit of a base up to sixteen. -/
def digitValue (base : ℕ) (c : Char) : Option ℕ :=
  some (if c.isDigit then c.toNat - 48 else if c.isAlpha then c.toLower.toNat - 87 else base)
    |>.filter (· < base)

/-- Digits with a point among them, and an exponent behind them. -/
def readNumber (base : ℕ) (mark : Char) (scale : ℚ) (text : List Char) : Option ℚ :=
  let digits := List.span (digitValue base · |>.isSome)
  let (whole, rest) := digits text
  let (part, rest) := if rest.head? = some '.' then digits rest.tail else ([], rest)
  let value : ℚ := ((whole ++ part).filterMap (digitValue base)).foldl (base * · + ·) 0 /
    base ^ part.length
  match whole ++ part, rest with
  | [], _ => none
  | _, [] => some value
  | _, c :: rest =>
    let signed := rest.head? = some '-' ∨ rest.head? = some '+'
    if c.toLower ≠ mark then none
    else (decimalValue (if signed then rest.tail else rest)).map fun n =>
      if rest.head? = some '-' then value / scale ^ n else value * scale ^ n

/-- `strtod`, when it stops at the end of the text at a finite number without an error. A number
that is rounded to a subnormal one is out of range. -/
def strtod (text : String) : Option Double :=
  let chars := (text.toList.takeWhile (·.toNat ≠ 0)).dropWhile isSpace
  let negative := chars.head? = some '-'
  let digits := if negative ∨ chars.head? = some '+' then chars.tail else chars
  let value := if (digits.take 2).map Char.toLower = ['0', 'x'] then
      readNumber 16 'p' 2 (digits.drop 2)
    else readNumber 10 'e' 10 digits
  value.bind fun x =>
    let d := Double.ofRat x
    if d.isFinite && (d.isNormal || d.toRat = x) then
      some ⟨if negative then d.bits + 2 ^ 63 else d.bits⟩
    else none

/-- `IbCallbackQuantitySumWithinTotal`: the sum may be rounded to the double above the total. -/
def ibCallbackQuantitySumWithinTotal (filled remaining total : Double) : Bool :=
  let sum := filled.add remaining
  total.isFinite && Double.zero.le total && filled.isFinite && Double.zero.le filled &&
    filled.le total && remaining.isFinite && Double.zero.le remaining && remaining.le total &&
    sum.isFinite &&
    (sum.le total ||
      (Double.zero.lt filled && Double.zero.lt remaining && total.isNormal &&
        sum.eq total.nextUp))

/-! ### Records -/

/-- Counters of 64 bits are not advanced beyond this value. -/
def uint64Max : ℕ := 2 ^ 64 - 1

def containsText (text part : String) : Bool :=
  text.toList.tails.any fun rest => part.toList.isPrefixOf rest

inductive IBEventType where
  | none
  | connected
  | connectionClosed
  | nextValidId
  | tickPrice
  | orderStatus
  | error
  | accountValue
  | positionSnapshotItem
  | positionEnd
  | positionMonitorUpdate
  | accountSummaryEnd
  | portfolioUpdate
  | openOrder
  | openOrderEnd
  | completedOrder
  | completedOrdersEnd
  | executionDetails
  | executionDetailsEnd
  | eventQueueOverflow
  | commissionReport
  deriving DecidableEq, Repr

/-- What the SDK says about an order besides the fields that the wrapper copies. -/
structure IBBrokerNativeOrderWitness where
  present : Bool := false
  orderId : Int := 0
  permanentId : Int := 0
  parentId : Int := 0
  clientId : Int := -1
  transmit : Bool := false
  account : String := ""
  action : String := ""
  orderType : String := ""
  orderRef : String := ""
  ocaGroup : String := ""
  stopAuxPrice : Double := .zero
  totalQuantity : Double := .zero
  deriving DecidableEq, Repr

structure IBEvent where
  type : IBEventType := .none
  id : Int := 0
  requestId : Int := 0
  connectionEpoch : ℕ := 0
  brokerClientId : Int := -1
  brokerPermId : Int := 0
  brokerParentOrderId : Int := 0
  brokerOcaGroup : String := ""
  brokerTransmit : Bool := false
  account : String := ""
  key : String := ""
  value : String := ""
  whyHeld : String := ""
  advancedOrderRejectJson : String := ""
  number : Double := .zero
  number2 : Double := .zero
  number3 : Double := .zero
  localMarketDataRequestError : Bool := false
  remainingQuantityKnown : Bool := true
  marketCapPrice : Double := .zero
  economicsAbsent : Bool := true
  contract : InstrumentRef := {}
  order : OrderIntent := {}
  nativeOrder : IBBrokerNativeOrderWitness := {}
  overflowGeneration : ℕ := 0
  deriving DecidableEq, Repr

structure HeptaIBConfig where
  clientId : Int := 101
  account : String := ""
  authoritativeCashFxContracts : Dict String InstrumentRef := ∅
  authoritativeCashFxBaselines : Dict String Double := ∅
  authoritativeCashFxStartupObservedBalances : Dict String Double := ∅

def HeptaIBConfig.fxInstrumentByBaseCurrency (cfg : HeptaIBConfig) : Dict String String :=
  cfg.authoritativeCashFxContracts.entries.foldl
    (fun table entry => table.insert entry.2.symbol entry.1) ∅

def HeptaIBConfig.fxEmpty (cfg : HeptaIBConfig) : Bool :=
  cfg.fxInstrumentByBaseCurrency.entries.isEmpty

/-! ### Reading an event -/

def isIbFinalStatus (status : String) : Bool :=
  status = "Filled" || status = "Cancelled" || status = "ApiCancelled" || status = "Inactive" ||
    status = "Rejected"

variable (e : IBEvent)

def hasEconomicFillEvidence : Bool :=
  e.number2.isFinite && Double.zero.lt e.number2 && e.number.isFinite && Double.zero.lt e.number

def isHistoricalSyntheticExecutionStatus : Bool :=
  e.type = .orderStatus && e.value = "execDetails" && decide (0 ≤ e.requestId)

/-- `ParseBrokerErrorCode`: `strtol` skips blanks and takes a sign, and nothing may follow. -/
def parseBrokerErrorCode (value : String) : Option Int :=
  let text := value.toList.dropWhile fun c => c = ' ' || ('\t' ≤ c && c ≤ '\r')
  let digits (cs : List Char) : Option Int :=
    if cs ≠ [] ∧ cs.all Char.isDigit then
      some (cs.foldl (fun n c => n * 10 + (c.toNat - 48 : ℕ)) 0)
    else Option.none
  let parsed :=
    match text with
    | '-' :: cs => (digits cs).map fun n => -n
    | '+' :: cs => digits cs
    | cs => digits cs
  parsed.filter fun n => decide (-2 ^ 31 ≤ n ∧ n < 2 ^ 31)

def isIbOrderSizeParseRejection320 : Bool :=
  e.type = .error && decide (0 < e.id) && e.connectionEpoch ≠ 0 && e.key = "320" &&
    containsText e.value "Unable to parse field: 'Order Size'"

def isIbCorroboratedCashMarketDataRequestError : Bool :=
  e.type = .error && e.localMarketDataRequestError && (e.key = "354" || e.key = "300") &&
    decide (1000000 ≤ e.id) && decide (e.id ≤ 2147483647) && e.requestId = e.id &&
    e.connectionEpoch ≠ 0 && decide (0 ≤ e.brokerClientId) && e.account = "" &&
    e.order.orderRef = "" && e.advancedOrderRejectJson = "" && e.contract.secType = "CASH" &&
    e.contract.symbol ≠ "" && e.contract.currency ≠ "" && e.contract.exchange ≠ ""

/-! ### Protective orders -/

def isIbConditionalTriggerType (type : String) : Bool :=
  type = "STP" || type = "STP LMT" || type = "TRAIL" || type = "TRAIL LIMIT" || type = "MIT" ||
    type = "LIT" || type = "STP PRT"

def isIbVisibleProtectiveCandidate : Bool :=
  isIbConditionalTriggerType e.order.orderType || e.brokerOcaGroup ≠ "" ||
    e.brokerParentOrderId ≠ 0

/-- The two views of one callback do not contradict each other. -/
def nativeAndLiteProtectiveShapeConsistent : Bool :=
  let n := e.nativeOrder
  let nativeProtective := isIbConditionalTriggerType n.orderType || n.ocaGroup ≠ "" ||
    n.parentId ≠ 0
  if !n.present then true
  else if !nativeProtective && !isIbVisibleProtectiveCandidate e then true
  else
    e.id = n.orderId && e.brokerPermId = n.permanentId && e.brokerParentOrderId = n.parentId &&
      e.brokerOcaGroup = n.ocaGroup && e.brokerTransmit = n.transmit &&
      e.brokerClientId = n.clientId && e.account = n.account && e.order.action = n.action &&
      e.order.orderType = n.orderType && e.order.orderRef = n.orderRef &&
      n.totalQuantity.isFinite && e.order.totalQuantity.eq n.totalQuantity &&
      (!isIbConditionalTriggerType e.order.orderType ||
        (n.stopAuxPrice.isFinite && e.order.auxPrice.eq n.stopAuxPrice))

structure IBVisibleProtectiveOrderCandidate where
  orderType : String
  action : String
  ocaGroup : String
  parentOrderId : Int
  transmit : Bool
  stopTrigger : Double
  totalQuantity : Double
  brokerClientId : Int
  orderId : Int
  deriving DecidableEq, Repr

def makeIbVisibleProtectiveCandidate : IBVisibleProtectiveOrderCandidate :=
  { orderType := e.order.orderType
    action := e.order.action
    ocaGroup := e.brokerOcaGroup
    parentOrderId := e.brokerParentOrderId
    transmit := e.brokerTransmit
    stopTrigger := e.order.auxPrice
    totalQuantity := e.order.totalQuantity
    brokerClientId := e.brokerClientId
    orderId := e.id }

def sameIbVisibleProtectiveCandidate (a b : IBVisibleProtectiveOrderCandidate) : Bool :=
  a.orderType = b.orderType && a.action = b.action && a.ocaGroup = b.ocaGroup &&
    a.parentOrderId = b.parentOrderId && a.transmit = b.transmit && a.stopTrigger.eq b.stopTrigger &&
    a.totalQuantity.eq b.totalQuantity && a.brokerClientId = b.brokerClientId &&
    a.orderId = b.orderId

/-- `MatchesSubmittedIBContract`: what was sent about a contract is what is observed; the broker may
add what was left open. -/
def matchesSubmittedIBContract (submitted observed : InstrumentRef) : Bool :=
  let keeps (sent seen : String) := sent = "" || sent = seen
  submitted.symbol ≠ "" && submitted.secType ≠ "" && submitted.currency ≠ "" &&
    submitted.exchange ≠ "" && submitted.symbol = observed.symbol &&
    submitted.secType = observed.secType && submitted.currency = observed.currency &&
    submitted.exchange = observed.exchange &&
    keeps submitted.primaryExchange observed.primaryExchange &&
    keeps submitted.localSymbol observed.localSymbol &&
    keeps submitted.lastTradeDateOrContractMonth observed.lastTradeDateOrContractMonth &&
    keeps submitted.right observed.right && submitted.strike.isFinite && observed.strike.isFinite &&
    (submitted.strike.eq .zero || submitted.strike.eq observed.strike) &&
    keeps submitted.multiplier observed.multiplier &&
    keeps submitted.tradingClass observed.tradingClass

end Hepta
