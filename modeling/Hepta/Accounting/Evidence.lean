import Mathlib.Algebra.Order.Field.Rat
import Hepta.Accounting.Book
import Hepta.Library.Checked

/-!
# The evidence of a strategy period

The records that `hepta_pnl_accounting.replay` reads, with the fields that it looks at. A field that
is not there is `none`. Decimals are read as exact rationals; what `Decimal` makes of a text is left
open.
-/

namespace Hepta

open Checked

inductive PnlKind where
  | orderIntent
  | flattenIntent
  | placeSent
  | flattenSent
  | reject
  | brokerExecution
  | brokerOrderStatus
  | brokerCommission
  | brokerError
  | brokerCompletedOrder
  | orderOwnerReconciledTerminal
  | other
  deriving DecidableEq, Repr

structure PnlEvent where
  event : PnlKind
  tsMs : Option Int := none
  account : Option String := none
  executionDomain : Option String := none
  instrument : Option String := none
  traceId : Option String := none
  source : Option String := none
  reqId : Option String := none
  clientReqId : Option String := none
  venueCorrelationId : Option String := none
  orderId : Option Int := none
  side : Option String := none
  status : Option String := none
  reason : Option String := none
  riskCode : Option String := none
  qty : Option ℚ := none
  price : Option ℚ := none
  brokerClientId : Option Int := none
  brokerRequestId : Option Int := none
  brokerErrorCode : Option Int := none
  brokerCallbackType : Option String := none
  brokerServiceEpoch : Option String := none
  brokerConnectionEpoch : Option Int := none
  brokerExecutionId : Option String := none
  brokerEconVersion : Option Int := none
  brokerEconValid : Option Int := none
  brokerEconKind : Option String := none
  brokerEconPriceRevisionPending : Option Int := none
  brokerEconContractIdentity : Option String := none
  brokerEconContractId : Option Int := none
  brokerEconPermanentOrderId : Option Int := none
  brokerEconShares : Option ℚ := none
  brokerEconExecutionPrice : Option ℚ := none
  brokerEconCumulativeQuantity : Option ℚ := none
  brokerEconCumulativeAverage : Option ℚ := none
  brokerEconCommission : Option ℚ := none
  brokerEconCommissionCurrency : Option String := none
  deriving DecidableEq, Repr

inductive PnlInstrument where
  | eurUsd
  | btcUsd
  deriving DecidableEq, Repr

def PnlInstrument.name : PnlInstrument → String
  | eurUsd => "EUR.USD"
  | btcUsd => "BTC.USD"

/-- `INSTRUMENTS`: the tolerance of a quantity. -/
def PnlInstrument.tolerance : PnlInstrument → ℚ
  | eurUsd => 1 / 10 ^ 6
  | btcUsd => 1 / 10 ^ 10

/-- The contract that an execution must be about. -/
def PnlInstrument.subject : PnlInstrument → String × String × String
  | eurUsd => ("EUR", "CASH", "USD")
  | btcUsd => ("BTC", "CRYPTO", "USD")

structure PnlOwner where
  agentId : String
  sessionId : String
  brokerClientId : Int
  openingQuantity : Option ℚ := some 0
  openingMark : Option ℚ := none

structure PnlPeriod where
  account : String
  startedAtMs : Int
  instruments : PnlInstrument → PnlOwner

/-- The arguments of `replay` apart from the events. -/
structure PnlScope where
  period : PnlPeriod
  instrument : PnlInstrument
  nowMs : Int
  /-- What `Decimal` reads from a text. -/
  decimal : String → Option ℚ := fun _ => none

namespace PnlScope

def owner (scope : PnlScope) : PnlOwner := scope.period.instruments scope.instrument

def start (scope : PnlScope) : Int := scope.period.startedAtMs

end PnlScope

/-- What `replay` raises: an `EvidenceError`, or the `KeyError` of a field that is not there. -/
inductive PnlError where
  | evidence (code : String)
  | key (name : String)
  deriving DecidableEq, Repr

instance : Coe String PnlError := ⟨.evidence⟩

instance : MonadLift (Except String) (Except PnlError) := ⟨Except.mapError .evidence⟩

@[simp] lemma PnlError.lift_eq_ok {α : Type} {x : Except String α} {a : α} :
    (liftM x : Except PnlError α) = .ok a ↔ x = .ok a := by
  cases x <;> simp [liftM, monadLift, MonadLift.monadLift, Except.mapError]

namespace Pnl

/-! ### Values -/

def number (value : Option ℚ) : Except String ℚ :=
  match value with
  | none => .error "INVALID_NUMBER"
  | some q => if 10 ^ 100 ≤ |q| then .error "UNSET_OR_NONFINITE_NUMBER" else .ok q

def positiveInt (value : Option Int) : Bool := value.any fun n => decide (0 < n)

def readSide (value : Option String) : Option Direction :=
  if value = some "BUY" ∨ value = some "BOT" then some .buy
  else if value = some "SELL" ∨ value = some "SLD" then some .sell
  else none

/-- What `side` makes of a side that has been looked up. -/
def side (direction : Option Direction) : Except String Direction :=
  match direction with
  | some direction => .ok direction
  | none => .error "EXECUTION_SIDE_INVALID"

/-- A value that is missing or empty. -/
def blank (value : Option String) : Bool := value = none || value = some ""

def hexDigit (c : Char) : Bool := c.isDigit || ('a' ≤ c && c ≤ 'f')

def isCorrelation (value : Option String) : Bool :=
  value.any fun text =>
    let digits := text.toList.drop 16
    text.toList.take 16 = "hepta-v1-sha256:".toList && digits.length = 64 && digits.all hexDigit

/-- One field of `contract_subject`: its length, a colon and its text. -/
def contractField (rest : List Char) : Option (List Char × List Char) :=
  let length := rest.takeWhile (· ≠ ':')
  let tail := (rest.dropWhile (· ≠ ':')).drop 1
  let size := (String.ofList length).toNat?.getD 0
  if ':' ∉ rest ∨ length = [] ∨ ¬length.all Char.isDigit ∨ 4 < length.length ∨ tail.length < size
  then none
  else some (tail.take size, tail.drop size)

def contractFields : ℕ → List Char → Option (List (List Char) × List Char)
  | 0, rest => some ([], rest)
  | n + 1, rest => do
    let (field, rest) ← contractField rest
    let (fields, rest) ← contractFields n rest
    some (field :: fields, rest)

def contractSubject (scope : PnlScope) (identity : Option String) :
    Except String (String × String × String) := do
  let text := (identity.getD "").toList
  refuse (identity = none ∨ text.take 6 ≠ "HIBE1:".toList)
    "ECONOMIC_CONTRACT_INVALID"
  match contractFields 8 (text.drop 6) with
  | none => .error "ECONOMIC_CONTRACT_INVALID"
  | some (fields, rest) =>
    refuse (rest.head? ≠ some ':') "ECONOMIC_CONTRACT_UNSUPPORTED"
    let strike ← number (scope.decimal (String.ofList (rest.drop 1)))
    refuse (strike ≠ 0 ∨ ((fields.drop 3).take 3).any (· ≠ [])) "ECONOMIC_CONTRACT_UNSUPPORTED"
    let text n := String.ofList (fields.getD n [])
    .ok (text 0, text 1, text 2)

/-! ### Ownership -/

def owns (scope : PnlScope) (e : PnlEvent) : Bool :=
  e.account = some scope.period.account && e.executionDomain = some "PAPER" &&
    e.instrument = some scope.instrument.name && e.traceId = some scope.owner.sessionId &&
    e.source = some ("agent.tool:" ++ scope.owner.agentId)

/-- `_binding`: a record's side is kept as what `side` reads from it. -/
structure Binding where
  reqId : Option String
  venueCorrelationId : Option String
  orderId : Option Int
  hasSide : Bool
  direction : Option Direction
  instrument : Option String
  account : Option String
  traceId : Option String
  deriving DecidableEq, Repr

def binding (e : PnlEvent) : Binding :=
  { reqId := e.reqId
    venueCorrelationId := e.venueCorrelationId
    orderId := e.orderId
    hasSide := e.side.isSome
    direction := readSide e.side
    instrument := e.instrument
    account := e.account
    traceId := e.traceId }

/-- Two bindings can be compared and are the same: `_binding` raises on a side that is no side. -/
def sameBinding (a b : Binding) : Bool := a.direction.isSome && b.direction.isSome && a = b

lemma eq_of_sameBinding (a b : Binding) (h : sameBinding a b = true) : a = b := by
  simp only [sameBinding, Bool.and_eq_true, decide_eq_true_eq] at h
  exact h.2

abbrev Epoch := Option String × Option Int

def epoch (e : PnlEvent) : Epoch := (e.brokerServiceEpoch, e.brokerConnectionEpoch)

end Pnl

end Hepta
