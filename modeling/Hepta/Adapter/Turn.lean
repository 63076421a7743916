import Hepta.Adapter.Calls

/-!
# What taking an event does

One equation for each type of event: of all the projections that an event goes through, only a few
look at its type. Later proofs use these equations and the lemmas about the projections.
-/

namespace Hepta

namespace HeptaIBGatewayAdapter

variable {a : HeptaIBGatewayAdapter} {e : IBEvent}

/-! ### Projections that pass an event over -/

@[simp] lemma isConsistentBoundOrderStatus_of_ne (h : e.type ≠ .orderStatus) :
    a.isConsistentBoundOrderStatus e = false := by
  unfold isConsistentBoundOrderStatus
  cases a.binding e.id <;> simp [h]

@[simp] lemma isExactDuplicateNativeTerminalStatus_of_ne (h : e.type ≠ .orderStatus) :
    a.isExactDuplicateNativeTerminalStatus e = false := by
  simp [isExactDuplicateNativeTerminalStatus, h]

@[simp] lemma correlateOpenOrderEvent_of_ne (h : e.type ≠ .openOrder) :
    a.correlateOpenOrderEvent e = (false, a) := by
  simp [correlateOpenOrderEvent, h]

lemma quarantine_of_ne (h : e.type ≠ .orderStatus) :
    a.quarantineContradictoryOrderStatusIdentity e = (false, a) := by
  simp [quarantineContradictoryOrderStatusIdentity, identityChecked, h]

lemma observeEconomicFill_of_ne (h : e.type ≠ .orderStatus) (h' : e.type ≠ .executionDetails) :
    a.observeEconomicFill e = a := by
  simp [observeEconomicFill, isFill, h, h']

@[simp] lemma applyRiskSnapshotEvent_of_not (h : Api.isRiskType e.type = false) :
    a.applyRiskSnapshotEvent e = a := by
  unfold applyRiskSnapshotEvent
  cases ht : e.type <;> simp_all [Api.isRiskType]

lemma applyActiveCorrelationEvent_of_ne (accepted : Bool) (h : e.type ≠ .openOrder)
    (h' : e.type ≠ .openOrderEnd) : a.applyActiveCorrelationEvent e accepted = a := by
  unfold applyActiveCorrelationEvent
  cases ht : e.type <;> simp_all

lemma applyLiveTerminalEvidence_of_ne (h : e.type ≠ .executionDetails)
    (h' : e.type ≠ .orderStatus) (h'' : e.type ≠ .error) : a.applyLiveTerminalEvidence e = a := by
  simp [applyLiveTerminalEvidence, isIbOrderSizeParseRejection320, h, h', h'']

@[simp] lemma publishPositionEvent_of_ne (h : e.type ≠ .portfolioUpdate) :
    a.publishPositionEvent e = a := by
  simp [publishPositionEvent, h]

lemma noteLateEvent_of_not (h : e.type ≠ .openOrder) (h₂ : e.type ≠ .orderStatus)
    (h₃ : e.type ≠ .executionDetails) (h₄ : e.type ≠ .completedOrder) (h₅ : e.type ≠ .error) :
    a.noteLateEvent e = a := by
  simp [noteLateEvent, lateBrokerEvent, h, h₂, h₃, h₄, h₅]

/-! ### The turn -/

/-- The event is not one of another connection. -/
def current (a : HeptaIBGatewayAdapter) (e : IBEvent) : Prop :=
  e.connectionEpoch = 0 ∨ e.connectionEpoch = a.connectionEpoch

instance : Decidable (current a e) := inferInstanceAs (Decidable (_ ∨ _))

lemma takeEvent_of_not_current (h : ¬a.current e) : a.takeEvent e = (false, a) := by
  unfold current at h
  unfold takeEvent
  rw [if_pos (by tauto)]

lemma takeEvent_of_ne (hcur : a.current e) (h : e.type ≠ .orderStatus)
    (h' : e.type ≠ .executionDetails) : a.takeEvent e = (true, a.projectEvent e) := by
  unfold current at hcur
  unfold takeEvent
  rw [if_neg (by tauto), quarantine_of_ne h]
  simp [untrustedBoundEvent, acceptEvent, completedStatus, h, h']

lemma applyEventStateTransition_of_ne (h : e.type ≠ .orderStatus) :
    a.applyEventStateTransition e =
      ((a.noteLateEvent e).observeEconomicFill e).applyTypedTransition e := by
  simp [applyEventStateTransition, contradictsBinding, h]

variable (hcur : a.current e)

include hcur

lemma takeEvent_risk (h : Api.isRiskType e.type = true) :
    a.takeEvent e = (true, a.applyRiskSnapshotEvent e) := by
  have hs : a.applyEventStateTransition e = a := by
    rw [applyEventStateTransition_of_ne (by rintro h'; simp [h', Api.isRiskType] at h)]
    unfold applyTypedTransition
    rw [noteLateEvent_of_not, observeEconomicFill_of_ne] <;>
      cases ht : e.type <;> simp_all [Api.isRiskType]
  rw [takeEvent_of_ne hcur (by rintro h'; simp [h', Api.isRiskType] at h)
    (by rintro h'; simp [h', Api.isRiskType] at h), projectEvent,
    correlateOpenOrderEvent_of_ne (by rintro h'; simp [h', Api.isRiskType] at h)]
  simp only [hs, applyTerminalCorrelationEvent]
  rw [applyActiveCorrelationEvent_of_ne, applyLiveTerminalEvidence_of_ne,
    publishPositionEvent_of_ne, applyTerminalDownloadEvent] <;>
    cases ht : e.type <;> simp_all [Api.isRiskType]

attribute [local simp] projectEvent applyEventStateTransition contradictsBinding noteLateEvent_of_not
  observeEconomicFill_of_ne applyActiveCorrelationEvent_of_ne applyTerminalCorrelationEvent
  applyLiveTerminalEvidence_of_ne Api.isRiskType

lemma takeEvent_portfolioUpdate (h : e.type = .portfolioUpdate) :
    a.takeEvent e = (true, a.publishPositionEvent e) := by
  rw [takeEvent_of_ne hcur (by simp [h]) (by simp [h])]
  simp [applyTypedTransition, applyTerminalDownloadEvent, h]

lemma takeEvent_openOrder (h : e.type = .openOrder) :
    a.takeEvent e = (true, ((a.correlateOpenOrderEvent e).2.noteLateEvent e)
      |>.applyActiveCorrelationEvent e (a.correlateOpenOrderEvent e).1) := by
  rw [takeEvent_of_ne hcur (by simp [h]) (by simp [h])]
  simp [applyTypedTransition, applyTerminalDownloadEvent, h]

lemma takeEvent_openOrderEnd (h : e.type = .openOrderEnd) :
    a.takeEvent e = (true, a.applyActiveCorrelationEvent e false) := by
  rw [takeEvent_of_ne hcur (by simp [h]) (by simp [h])]
  simp [applyTypedTransition, applyTerminalDownloadEvent, h]

lemma takeEvent_error (h : e.type = .error) :
    a.takeEvent e = (true, ((a.noteLateEvent e).applyBrokerErrorTransition e)
      |>.applyLiveTerminalEvidence e) := by
  rw [takeEvent_of_ne hcur (by simp [h]) (by simp [h])]
  simp [applyTypedTransition, applyTerminalDownloadEvent, h]

lemma takeEvent_completedOrder (h : e.type = .completedOrder) :
    a.takeEvent e = (true, (a.noteLateEvent e).applyTerminalDownloadEvent e) := by
  rw [takeEvent_of_ne hcur (by simp [h]) (by simp [h])]
  simp [applyTypedTransition, h]

lemma takeEvent_downloadEnd (h : e.type = .completedOrdersEnd ∨ e.type = .executionDetailsEnd) :
    a.takeEvent e = (true, a.applyTerminalDownloadEvent e) := by
  rcases h with h | h <;>
  · rw [takeEvent_of_ne hcur (by simp [h]) (by simp [h])]
    simp [applyTypedTransition, h]

lemma takeEvent_connection
    (h : e.type ∈ [IBEventType.none, .connected, .connectionClosed, .nextValidId, .tickPrice,
      .eventQueueOverflow, .commissionReport]) :
    a.takeEvent e = (true, a.applyTypedTransition e) := by
  simp only [List.mem_cons, List.not_mem_nil, or_false] at h
  rcases h with h | h | h | h | h | h | h <;>
  · rw [takeEvent_of_ne hcur (by simp [h]) (by simp [h])]
    simp [applyTerminalDownloadEvent, h]

/-- An execution that agrees with the binding of its order. -/
def acceptExecution (a : HeptaIBGatewayAdapter) (e : IBEvent) : HeptaIBGatewayAdapter :=
  ((a.noteLateEvent e).observeEconomicFill e).applyTerminalCorrelationEvent e

lemma takeEvent_executionDetails (h : e.type = .executionDetails) :
    a.takeEvent e = if a.untrustedBoundEvent e then (false, a.rejectBoundEvent e)
      else (true, a.acceptExecution e) := by
  unfold current at hcur
  unfold takeEvent
  rw [if_neg (by tauto), quarantine_of_ne (by simp [h])]
  simp [acceptEvent, completedStatus, applyTypedTransition, acceptExecution, h]

omit hcur

/-- A status that is not quarantined, with what its binding knows. -/
def acceptStatus (a : HeptaIBGatewayAdapter) (e : IBEvent) : HeptaIBGatewayAdapter :=
  (a.applyEventStateTransition e).applyLiveTerminalEvidence e

lemma completedStatus_type {e' : IBEvent} (h : a.completedStatus e = some e') :
    e'.type = e.type := by
  unfold completedStatus at h
  split at h
  · cases h
    rfl
  split at h
  · cases h
    rfl
  · split at h <;> cases h
    rfl

lemma acceptEvent_orderStatus (h : e.type = .orderStatus) :
    a.acceptEvent e = match a.completedStatus e with
      | none => a.invalidateRiskSnapshot "IB_LIVE_STATUS_BINDING_INVALID"
      | some e' => a.acceptStatus e' := by
  unfold acceptEvent
  cases hs : a.completedStatus e with
  | none => rfl
  | some e' =>
    have ht : e'.type = .orderStatus := (completedStatus_type hs).trans h
    simp [applyTerminalDownloadEvent, acceptStatus, ht]

lemma takeEvent_orderStatus (hcur : a.current e) :
    a.takeEvent e = match a.quarantineContradictoryOrderStatusIdentity e with
      | (true, a) => (false, a)
      | (false, a) =>
        if a.untrustedBoundEvent e then (false, a.rejectBoundEvent e)
        else (true, a.acceptEvent e) := by
  unfold current at hcur
  unfold takeEvent
  exact if_neg (by tauto)

end HeptaIBGatewayAdapter

end Hepta
