import Hepta.Checkpoint.Generation
import Hepta.Checkpoint.Hot

/-!
# Order ownership after sealing

The owner of an order is what the last record that names or ends it says. Recovery reads
receipts, accepted resolutions, cancel resolutions and the ends of orders; the hot replay keeps
the last receipt that no end of the order followed.
-/

namespace Hepta

open List Checkpoint Coordinator Finmap

variable {events P T : List OmsJournalEvent} {event : OmsJournalEvent} {p : Projection}

/-- What a record does to the owner of an order: it may name one or end the ownership. -/
def ownerEffect (orderId : Int) (event : OmsJournalEvent) : Option (Option ExecutionOrderOwner) :=
  if event.commandId = "" ∨ event.agentId = "" ∨ event.orderId ≠ orderId then none
  else match event.eventType with
    | .orderOwnerReconciledTerminal => some none
    | .placeSent | .placeActivated | .flattenSent =>
      if 0 ≤ orderId then some (some event.owner) else none
    | .executionCommandResolved =>
      if event.status = "accepted" ∧ 0 ≤ orderId then some (some event.owner) else none
    | .cancelCommandResolved => if 0 ≤ orderId then some none else none
    | _ => none

/-- The hot replay keeps a record that touches the order: it is its last receipt, with no end of
the order behind it, or the outcome of its command is open. -/
def Stands (orderId : Int) (front : List OmsJournalEvent) (event : OmsJournalEvent)
    (back : List OmsJournalEvent) : Prop :=
  ownerMark orderId event = some true ∧ (∀ b ∈ back, ownerMark orderId b = none) ∨
    uncertain (commandKey event) (front ++ event :: back)

/-- Of the records that touch the order, the last one that stands leaves this owner. -/
def Standing (orderId : Int) (P : List OmsJournalEvent) (owner : Option ExecutionOrderOwner) :
    Prop :=
  (∃ front e back, P = front ++ e :: back ∧ ownerEffect orderId e = some owner ∧
    Stands orderId front e back ∧ ∀ f b r, back = f ++ b :: r →
      Stands orderId (front ++ e :: f) b r → ownerEffect orderId b = none) ∨
  owner = none ∧ ∀ front e back, P = front ++ e :: back →
    Stands orderId front e back → ownerEffect orderId e = none

/-- For every order that no record behind the cut touches, the last record before the cut that
touches it leaves the owner that the last one that stands leaves. -/
def OwnersKept (P T : List OmsJournalEvent) : Prop :=
  ∀ orderId, (∀ e ∈ T, ownerEffect orderId e = none) → ∀ front e back owner,
    P = front ++ e :: back → ownerEffect orderId e = some owner →
    (∀ b ∈ back, ownerEffect orderId b = none) → Standing orderId P owner

end Hepta
