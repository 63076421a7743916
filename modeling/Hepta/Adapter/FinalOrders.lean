import Hepta.Adapter.Lifecycle
import Hepta.Execution.Run
import Hepta.Library.Guarded

/-!
# Cancels of orders that the broker has ended

Final evidence about an order stays with the tracker of the connection, and the coordinator
refuses to cancel the order before anything is journaled. The gap is a rejection of an order that
the broker has not acknowledged: the missing acknowledgement is looked at first.
-/

namespace Hepta

open Finmap

namespace IbOrderLifecycleTracker

inductive Call
  | activateConnectionEpoch (connectionEpoch : Nat)
  | invalidateConnectionEpoch
  | beginLocalOrderGeneration (orderId : Int)
  | recordBrokerOpenOrder (orderId : Int) (status : String)
  | recordBrokerStatus (orderId : Int) (status : String) (economicFillEvidence : Bool)
  | forget (orderId : Int)

def step (t : IbOrderLifecycleTracker) : Call → IbOrderLifecycleTracker
  | .activateConnectionEpoch connectionEpoch => t.activateConnectionEpoch connectionEpoch
  | .invalidateConnectionEpoch => t.invalidateConnectionEpoch
  | .beginLocalOrderGeneration orderId => t.beginLocalOrderGeneration orderId
  | .recordBrokerOpenOrder orderId status => (t.recordBrokerOpenOrder orderId status).2
  | .recordBrokerStatus orderId status economicFillEvidence =>
    t.recordBrokerStatus orderId status economicFillEvidence
  | .forget orderId => t.forget orderId

/-- What the eligibility read of the coordinator gets from the tracker. -/
def eligibility (t : IbOrderLifecycleTracker) (orderId : Int) : CheckReply :=
  match t.canCancel orderId with
  | .ok ()        => .returned true ""
  | .error reason => .returned false reason

/-- The call is final evidence about the order. -/
def Call.Ends (orderId : Int) : Call → Prop
  | .recordBrokerOpenOrder id status =>
    id = orderId ∧ isFinalStatus status = true ∧ status ≠ "Filled"
  | .recordBrokerStatus id status economicFillEvidence =>
    id = orderId ∧ isFinalStatus status = true ∧
      (status ≠ "Filled" ∨ economicFillEvidence = true)
  | _ => False

/-- The call stays in the epoch and neither starts nor forgets the order. -/
def Call.Keeps (connectionEpoch : Nat) (orderId : Int) : Call → Prop
  | .activateConnectionEpoch epoch => epoch = connectionEpoch
  | .invalidateConnectionEpoch => False
  | .beginLocalOrderGeneration id | .forget id => id ≠ orderId
  | .recordBrokerOpenOrder .. | .recordBrokerStatus .. => True

/-- A status callback reports a rejection of an acknowledged order only. -/
def RejectsAcknowledged (t : IbOrderLifecycleTracker) : Call → Prop
  | .recordBrokerStatus orderId status _ =>
    status = "Rejected" → ∃ state, t.states.lookup orderId = some state ∧ state.brokerAck = true
  | _ => True

variable {t : IbOrderLifecycleTracker} {orderId : Int} {call : Call} {connectionEpoch : Nat}
  {state : IbOrderState} {status : String}

def EndedAcknowledged (t : IbOrderLifecycleTracker) : Prop :=
  ∀ orderId state, t.states.lookup orderId = some state → state.finalState = true →
    state.sentToBroker = true ∧ state.brokerAck = true

lemma EndedAcknowledged.insert (h : EndedAcknowledged t)
    (hs : state.finalState = true → state.sentToBroker = true ∧ state.brokerAck = true) :
    EndedAcknowledged { t with states := t.states.insert orderId state } := by
  intro id state' hl
  by_cases hi : id = orderId
  · subst hi
    rw [lookup_insert] at hl
    rwa [← Option.some.inj hl]
  · rw [lookup_insert_of_ne _ hi] at hl
    exact h id state' hl

lemma isBrokerAckStatus_of_isFinalStatus (h : isFinalStatus status = true)
    (he : status ≠ "Rejected") : isBrokerAckStatus status = true := by
  simp only [isFinalStatus, List.mem_cons, List.not_mem_nil, or_false, decide_eq_true_eq] at h
  rcases h with rfl | rfl | rfl | rfl | rfl
  all_goals first | rfl | exact absurd rfl he

lemma endedAcknowledged_status (h : EndedAcknowledged t) {efe : Bool}
    (ho : t.RejectsAcknowledged (.recordBrokerStatus orderId status efe)) :
    EndedAcknowledged (t.recordBrokerStatus orderId status efe) := by
  unfold recordBrokerStatus
  split_ifs
  · refine h.insert fun hf => ⟨rfl, ?_⟩
    simp only [Bool.or_eq_true, Bool.and_eq_true] at hf ⊢
    rcases hf with hf | ⟨hf, -⟩
    · cases hl : t.states.lookup orderId with
      | none => simp [hl] at hf
      | some state =>
        rw [hl] at hf
        exact .inl (h orderId state hl hf).2
    · by_cases hr : status = "Rejected"
      · obtain ⟨_, hl, ha⟩ := ho hr
        exact .inl (by rw [hl]; exact ha)
      · exact .inr (isBrokerAckStatus_of_isFinalStatus hf hr)
  · exact h

lemma endedAcknowledged_step (h : EndedAcknowledged t) (ho : t.RejectsAcknowledged call) :
    EndedAcknowledged (t.step call) := by
  have he : ∀ {epoch act}, EndedAcknowledged ⟨∅, epoch, act⟩ := by
    intro epoch act orderId state hl
    simp at hl
  cases call with
  | activateConnectionEpoch =>
    simp only [step, activateConnectionEpoch]
    split_ifs
    · exact h
    · exact he
  | invalidateConnectionEpoch => exact he
  | beginLocalOrderGeneration =>
    simp only [step, beginLocalOrderGeneration]
    split_ifs
    · exact h.insert (by simp)
    · exact h
  | recordBrokerOpenOrder =>
    simp only [step, recordBrokerOpenOrder]
    split_ifs
    · exact h
    · exact h.insert fun _ => ⟨rfl, rfl⟩
  | recordBrokerStatus => exact endedAcknowledged_status h ho
  | forget id =>
    intro orderId state hl
    refine h orderId state ?_
    by_cases hi : orderId = id
    · subst hi
      simp [step, forget] at hl
    · rwa [step, forget, lookup_erase_ne hi] at hl

structure Ended (t : IbOrderLifecycleTracker) (connectionEpoch : Nat) (orderId : Int) : Prop where
  active : t.connectionEpochActive = true
  epoch : t.connectionEpoch = connectionEpoch
  final : ∃ state, t.states.lookup orderId = some state ∧ state.finalState = true

lemma Ended.insert (h : Ended t connectionEpoch orderId) {id : Int}
    (hs : id = orderId → state.finalState = true) :
    Ended { t with states := t.states.insert id state } connectionEpoch orderId := by
  refine ⟨h.active, h.epoch, ?_⟩
  by_cases hi : orderId = id
  · subst hi
    exact ⟨state, lookup_insert _, hs rfl⟩
  · simpa only [lookup_insert_of_ne _ hi] using h.final

lemma ended_of_ends (ha : t.connectionEpochActive = true) (hc : call.Ends orderId) :
    Ended (t.step call) t.connectionEpoch orderId := by
  cases call with
  | recordBrokerOpenOrder id =>
    obtain ⟨rfl, hfn, hf⟩ := hc
    simp only [step, recordBrokerOpenOrder]
    split_ifs with hr
    · simp only [ha, Bool.not_true, Bool.false_or] at hr
      cases hl : t.states.lookup id with
      | none => simp [hl] at hr
      | some state => exact ⟨ha, rfl, state, hl, by simpa [hl] using hr⟩
    · exact ⟨ha, rfl, _, lookup_insert _, by simp [hfn, hf]⟩
  | recordBrokerStatus =>
    obtain ⟨rfl, hfn, hf⟩ := hc
    rw [step, recordBrokerStatus, if_pos ha]
    exact ⟨ha, rfl, _, lookup_insert _, by simp [hfn, hf]⟩
  | _ => cases hc

lemma ended_step (h : Ended t connectionEpoch orderId)
    (hc : call.Keeps connectionEpoch orderId) : Ended (t.step call) connectionEpoch orderId := by
  obtain ⟨state, hl, hf⟩ := h.final
  cases call with
  | activateConnectionEpoch epoch =>
    obtain rfl : epoch = connectionEpoch := hc
    simpa [step, activateConnectionEpoch, h.active, h.epoch] using h
  | invalidateConnectionEpoch => cases hc
  | beginLocalOrderGeneration =>
    rw [step, beginLocalOrderGeneration, if_pos h.active]
    exact h.insert fun hi => absurd hi hc
  | recordBrokerOpenOrder =>
    simp only [step, recordBrokerOpenOrder]
    split_ifs with hr
    · exact h
    · refine h.insert ?_
      rintro rfl
      simp [hl, hf] at hr
  | recordBrokerStatus =>
    rw [step, recordBrokerStatus, if_pos h.active]
    refine h.insert ?_
    rintro rfl
    simp [hl, hf]
  | forget =>
    refine ⟨h.active, h.epoch, state, ?_, hf⟩
    rwa [step, forget, lookup_erase_ne (Ne.symm hc)]

lemma cancelPreflightReturned_suppressed (S : Service) (s : System) (c : CancelOrderCommand)
    (io : Io) {rs : String} (hr : rs ≠ "NO_BROKER_ACK") :
    (s.cancelPreflightReturned S c (.returned false rs) io).1.journal = s.journal ∧
      (s.cancelPreflightReturned S c (.returned false rs) io).1.dispatches =
        s.dispatches ∧
      (s.cancelPreflightReturned S c (.returned false rs) io).2 ≠ none := by
  unfold System.cancelPreflightReturned
  dsimp only [cancelEligibility]
  split
  · exact ⟨rfl, rfl, Option.some_ne_none _⟩
  · rw [if_pos ⟨rfl, hr⟩]
    exact ⟨rfl, rfl, Option.some_ne_none _⟩

/-- After final evidence, and until the order is started again or forgotten or the epoch changes,
the order is already final for the tracker and every cancel of it is refused before its intent,
whatever callbacks follow. -/
theorem ended_order_not_cancelled {before after : List Call} {evidence : Call}
    (hrun : Guarded.Run step RejectsAcknowledged {} (before ++ evidence :: after))
    (hactive : (before.foldl step {}).connectionEpochActive = true)
    (hevidence : evidence.Ends orderId)
    (hafter : ∀ call ∈ after, call.Keeps (before.foldl step {}).connectionEpoch orderId) :
    let t := (before ++ evidence :: after).foldl step {}
    t.canCancel orderId = .error "ALREADY_FINAL" ∧
      ∀ S s command io, command.orderId = orderId →
        let r := System.cancelPreflightReturned S s command (t.eligibility command.orderId) io
        r.1.journal = s.journal ∧ r.1.dispatches = s.dispatches ∧ r.2 ≠ none := by
  intro t
  have hac : EndedAcknowledged t :=
    hrun.invariant (by intro orderId state hl; simp at hl) fun _ _ => endedAcknowledged_step
  have he : Ended t (before.foldl step {}).connectionEpoch orderId := by
    simp only [t, List.foldl_append, List.foldl_cons]
    exact List.foldlRecOn after step (motive := fun t => Ended t _ orderId)
      (ended_of_ends hactive hevidence) fun _ h call hcl => ended_step h (hafter call hcl)
  obtain ⟨state, hl, hf⟩ := he.final
  obtain ⟨hs, ha⟩ := hac orderId state hl hf
  have hc : t.canCancel orderId = .error "ALREADY_FINAL" := by
    simp [canCancel, hl, hs, ha, hf]
  refine ⟨hc, ?_⟩
  rintro S s command io rfl
  rw [eligibility, hc]
  exact cancelPreflightReturned_suppressed S s command io (by decide)

/-- An acknowledged order is cancelled; a late open order and a late status change nothing. -/
theorem ended_order_not_cancelled_late :
    let calls : List Call := [.activateConnectionEpoch 1, .beginLocalOrderGeneration 7,
      .recordBrokerStatus 7 "Submitted" false, .recordBrokerStatus 7 "Cancelled" false,
      .recordBrokerOpenOrder 7 "Submitted", .recordBrokerStatus 7 "Submitted" false]
    (calls.foldl step {}).canCancel 7 = .error "ALREADY_FINAL" :=
  (@ended_order_not_cancelled 7 [.activateConnectionEpoch 1, .beginLocalOrderGeneration 7,
    .recordBrokerStatus 7 "Submitted" false]
    [.recordBrokerOpenOrder 7 "Submitted", .recordBrokerStatus 7 "Submitted" false]
    (.recordBrokerStatus 7 "Cancelled" false)
    ⟨trivial, trivial, by simp [RejectsAcknowledged], by simp [RejectsAcknowledged], trivial,
      by simp [RejectsAcknowledged], trivial⟩ rfl
    ⟨rfl, by decide, .inl (by decide)⟩ (by simp [Call.Keeps])).1

/-- The broker rejects an order that it has not acknowledged, and the coordinator journals the
intent to cancel it and calls the venue. -/
theorem rejected_order_cancelled :
    let t := [Call.activateConnectionEpoch 1, .beginLocalOrderGeneration 7,
      .recordBrokerStatus 7 "Rejected" false].foldl step {}
    let command : CancelOrderCommand :=
      { context := { sampleContext "cancel" with allowCancelAny := true }, orderId := 7 }
    let r := System.cancelPreflightReturned sampleService {} command (t.eligibility 7) {}
    t.canCancel 7 = .error "NO_BROKER_ACK" ∧
      r.1.journal.written.map OmsJournalEvent.status = ["intent_recorded", "attempt_recorded"] ∧
      r.1.dispatches.length = 1 := by
  decide

end IbOrderLifecycleTracker

end Hepta
