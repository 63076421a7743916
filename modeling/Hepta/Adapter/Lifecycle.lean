import Hepta.Library.Map

/-!
# The lifecycle of orders at the broker

`IbOrderLifecycleTracker` remembers for each order of a connection whether the broker has
acknowledged and ended it.
-/

namespace Hepta

structure IbOrderState where
  sentToBroker : Bool := false
  brokerAck : Bool := false
  finalState : Bool := false
  cancellationPending : Bool := false
  lastStatus : String := ""
  deriving DecidableEq, Repr

structure IbOrderLifecycleTracker where
  states : UMap Int IbOrderState := ∅
  connectionEpoch : Nat := 0
  connectionEpochActive : Bool := false

namespace IbOrderLifecycleTracker

def isBrokerAckStatus (status : String) : Bool :=
  status ∈ ["Accepted", "ApiPending", "PendingSubmit", "PreSubmitted", "Submitted",
    "PartiallyFilled", "PendingCancel", "PreCancelled", "Filled", "Cancelled", "ApiCancelled",
    "Inactive"]

def isFinalStatus (status : String) : Bool :=
  status ∈ ["Filled", "Cancelled", "ApiCancelled", "Inactive", "Rejected"]

def isPendingCancel (status : String) : Bool := status = "PendingCancel" || status = "PreCancelled"

variable (t : IbOrderLifecycleTracker)

def activateConnectionEpoch (connectionEpoch : Nat) : IbOrderLifecycleTracker :=
  if t.connectionEpochActive && t.connectionEpoch = connectionEpoch then t
  else { states := ∅, connectionEpoch, connectionEpochActive := true }

def invalidateConnectionEpoch : IbOrderLifecycleTracker :=
  { t with states := ∅, connectionEpochActive := false }

variable (orderId : Int)

def beginLocalOrderGeneration : IbOrderLifecycleTracker :=
  if t.connectionEpochActive then
    { t with states := t.states.insert orderId { sentToBroker := true, lastStatus := "LOCAL_SENT" } }
  else t

/-- An open order is not accepted after final evidence. A final status in an open order counts as
such evidence afterwards, except that a fill needs its economics. -/
def recordBrokerOpenOrder (status : String) : Bool × IbOrderLifecycleTracker :=
  let state := (t.states.lookup orderId).getD {}
  if !t.connectionEpochActive || state.finalState then (false, t)
  else
    (true,
      { t with
        states := t.states.insert orderId
          { state with
            sentToBroker := true
            brokerAck := true
            cancellationPending := state.cancellationPending || isPendingCancel status
            finalState := isFinalStatus status && status ≠ "Filled"
            lastStatus := status } })

def recordBrokerStatus (status : String) (economicFillEvidence : Bool) : IbOrderLifecycleTracker :=
  let state := (t.states.lookup orderId).getD {}
  if t.connectionEpochActive then
    { t with
      states := t.states.insert orderId
        { state with
          sentToBroker := true
          brokerAck := state.brokerAck || isBrokerAckStatus status
          cancellationPending := state.cancellationPending || isPendingCancel status
          finalState := state.finalState ||
            (isFinalStatus status && (status ≠ "Filled" || economicFillEvidence))
          lastStatus := status } }
  else t

def forget : IbOrderLifecycleTracker :=
  { t with states := t.states.erase orderId }

/-- Whether a cancel may be sent, or why it is not. -/
def canCancel : Except String Unit :=
  match t.states.lookup orderId with
  | none => .error "NO_BROKER_SUBMIT"
  | some state =>
    if !state.sentToBroker then .error "NO_BROKER_SUBMIT"
    else if !state.brokerAck then .error "NO_BROKER_ACK"
    else if state.finalState then .error "ALREADY_FINAL"
    else if state.cancellationPending then .error "CANCEL_ALREADY_PENDING"
    else .ok ()

end IbOrderLifecycleTracker

end Hepta
