import Mathlib

/-!
# Journal records

The record type of the order-management journal (`OmsJournalEvent` in `oms_journal.h`),
with the fields that the execution coordinator writes and that recovery reads back. The
broker callback fields carry evidence only and are left out.
-/

namespace Hepta

/-- An IEEE double, kept as its bit pattern: the code stores it, compares it and hashes it. -/
structure Double where
  bits : BitVec 64
deriving DecidableEq, Repr

namespace Double

def zero : Double := ⟨0⟩

variable (d : Double)

def exponent : Nat := (d.bits.toNat / 2 ^ 52) % 2 ^ 11

def fraction : Nat := d.bits.toNat % 2 ^ 52

/-- `std::isfinite`. -/
def isFinite : Bool := d.exponent ≠ 2047

/-- The rank of a number in the order of doubles, infinities included: the two zeros have the
same rank and a NaN has none. -/
def rank : Option Int :=
  if d.exponent = 2047 ∧ d.fraction ≠ 0 then none
  else
    let magnitude : Int := (d.bits.toNat % 2 ^ 63 : Nat)
    some (if d.bits.msb then -magnitude else magnitude)

/-- The operator `<`, false on a NaN. -/
def lt (a b : Double) : Bool :=
  match a.rank, b.rank with
  | some m, some n => m < n
  | _, _           => false

/-- The operator `<=`, false on a NaN. -/
def le (a b : Double) : Bool :=
  match a.rank, b.rank with
  | some m, some n => m ≤ n
  | _, _           => false

/-- The operator `==`, false on a NaN. -/
def eq (a b : Double) : Bool :=
  match a.rank, b.rank with
  | some m, some n => m = n
  | _, _           => false

/-- `std::fabs`. -/
def abs : Double := ⟨BitVec.ofNat 64 (d.bits.toNat % 2 ^ 63)⟩

/-- The value of a finite double. -/
def toRat : ℚ :=
  let sign : ℚ := if d.bits.msb then -1 else 1
  if d.exponent = 0 then sign * d.fraction / 2 ^ 1074
  else sign * (2 ^ 52 + d.fraction : ℕ) * 2 ^ d.exponent / 2 ^ 1075

instance : Inhabited Double := ⟨zero⟩

end Double

/-- The event types that the coordinator and its recovery know by name. -/
inductive EventType
  | orderIntent
  | placeSendAttempt
  | placeSent
  | placeActivated
  | placeOutcomeUncertain
  | reject
  | cancel
  | cancelSendAttempt
  | cancelCommandResolved
  | flattenIntent
  | flattenSendAttempt
  | flattenSent
  | flattenNoop
  | flattenReject
  | flattenOutcomeUncertain
  | executionProjectionFailed
  | executionProjectionResolved
  | executionCommandResolved
  | accountNewEntryFenced
  | sessionOwnerFenced
  | sessionOwnerRecoveryOnly
  | sessionOwnerFenceRelease
  | orderOwnerReconciledTerminal
  | paperTerminalFence
  | other (name : String)
deriving DecidableEq, Repr

/-- The text of the `event` field. -/
def EventType.name : EventType → String
  | .orderIntent                  => "order_intent"
  | .placeSendAttempt             => "place_send_attempt"
  | .placeSent                    => "place_sent"
  | .placeActivated               => "place_activated"
  | .placeOutcomeUncertain        => "place_outcome_uncertain"
  | .reject                       => "reject"
  | .cancel                       => "cancel"
  | .cancelSendAttempt            => "cancel_send_attempt"
  | .cancelCommandResolved        => "cancel_command_resolved"
  | .flattenIntent                => "flatten_intent"
  | .flattenSendAttempt           => "flatten_send_attempt"
  | .flattenSent                  => "flatten_sent"
  | .flattenNoop                  => "flatten_noop"
  | .flattenReject                => "flatten_reject"
  | .flattenOutcomeUncertain      => "flatten_outcome_uncertain"
  | .executionProjectionFailed    => "execution_projection_failed"
  | .executionProjectionResolved  => "execution_projection_resolved"
  | .executionCommandResolved     => "execution_command_resolved"
  | .accountNewEntryFenced        => "account_new_entry_fenced"
  | .sessionOwnerFenced           => "session_owner_fenced"
  | .sessionOwnerRecoveryOnly     => "session_owner_recovery_only"
  | .sessionOwnerFenceRelease     => "session_owner_fence_release"
  | .orderOwnerReconciledTerminal => "order_owner_reconciled_terminal"
  | .paperTerminalFence           => "paper_terminal_fence"
  | .other name                   => name

/-- The event types outside the coordinator that `IsCriticalEventType` lists. -/
def criticalBrokerEvents : List String :=
  ["status", "risk_blocked", "broker_order_status", "broker_order_accepted", "broker_error",
    "broker_execution", "broker_commission", "broker_completed_order",
    "broker_completed_orders_end", "broker_execution_details_end"]

/-- `OmsJournal::IsCriticalEventType`. The recovery-only and the terminal fence records are
not in the list. -/
def EventType.isCritical : EventType → Bool
  | .sessionOwnerRecoveryOnly => false
  | .paperTerminalFence       => false
  | .other name               => criticalBrokerEvents.contains name
  | _                         => true

structure OmsJournalEvent where
  eventType : EventType
  tsMs : Int := 0
  orderId : Int := -1
  clientReqId : String := ""
  instrument : String := ""
  side : String := ""
  qty : Double := .zero
  price : Double := .zero
  status : String := ""
  reason : String := ""
  source : String := ""
  traceId : String := ""
  reqId : String := ""
  riskCode : String := ""
  venue : String := ""
  strategy : String := ""
  account : String := ""
  eventId : String := ""
  executionDomain : String := ""
  requestHash : String := ""
  venueCorrelationId : String := ""
deriving DecidableEq, Repr

end Hepta
