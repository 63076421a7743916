import Hepta.Adapter.Turn

/-!
# What the other events leave of the risk snapshot

Apart from the answers to the two risk requests, no event changes the risk snapshot other than by
invalidating it, and none changes the requests or the rest of the queue. A broker call, a fill and
an invalidated risk snapshot each invalidate the barrier of the recovery audit.
-/

namespace Hepta

/-- The wrapper apart from what was passed to the broker. -/
def Api.silent (api : Api) : Api := { api with calls := [] }

namespace RiskView

lemma invalidate_invalidate (r : RiskView) (cfg : HeptaIBConfig) (connectionEpoch : ℕ)
    (reason reason' : String) :
    (r.invalidate cfg connectionEpoch reason).invalidate cfg connectionEpoch reason' =
      r.invalidate cfg connectionEpoch reason' := rfl

end RiskView

namespace HeptaIBGatewayAdapter

variable {a b c : HeptaIBGatewayAdapter} {e : IBEvent}

/-- The fields that a frame is about are the same. -/
structure Same (a b : HeptaIBGatewayAdapter) : Prop where
  cfg : b.cfg = a.cfg
  attempted : b.apiConnectAttempted = a.apiConnectAttempted
  connectionEpoch : b.connectionEpoch = a.connectionEpoch
  api : b.api = a.api
  risk : b.risk = a.risk
  exposureGeneration : b.exposureGeneration = a.exposureGeneration
  fills : b.observedEconomicFillQuantityByIdentity = a.observedEconomicFillQuantityByIdentity
  brokerMutationGeneration : b.brokerMutationGeneration = a.brokerMutationGeneration
  audit : b.audit = a.audit

structure Frame (a b : HeptaIBGatewayAdapter) : Prop where
  cfg : b.cfg = a.cfg
  attempted : b.apiConnectAttempted = a.apiConnectAttempted
  connectionEpoch : b.connectionEpoch = a.connectionEpoch
  transport : b.api.map Api.silent = a.api.map Api.silent
  risk : b.risk = a.risk ∨ ∃ reason, b.risk = a.risk.invalidate a.cfg a.connectionEpoch reason
  exposureGeneration : a.exposureGeneration ≤ b.exposureGeneration
  fills : b.exposureGeneration = a.exposureGeneration →
    b.observedEconomicFillQuantityByIdentity = a.observedEconomicFillQuantityByIdentity
  brokerMutationGeneration : a.brokerMutationGeneration ≤ b.brokerMutationGeneration
  calls : b.brokerMutationGeneration = a.brokerMutationGeneration → b.api = a.api
  /-- The barrier is kept together with what it vouches for, or it is not complete. -/
  audit : b.audit = a.audit ∧ b.risk = a.risk ∧ b.exposureGeneration = a.exposureGeneration ∧
    b.brokerMutationGeneration = a.brokerMutationGeneration ∨ b.audit.complete = false

lemma Same.frame (h : Same a b) : Frame a b where
  cfg := h.cfg
  attempted := h.attempted
  connectionEpoch := h.connectionEpoch
  transport := by rw [h.api]
  risk := .inl h.risk
  exposureGeneration := h.exposureGeneration.ge
  fills _ := h.fills
  brokerMutationGeneration := h.brokerMutationGeneration.ge
  calls _ := h.api
  audit := .inl ⟨h.audit, h.risk, h.exposureGeneration, h.brokerMutationGeneration⟩

@[refl] lemma Same.refl (a : HeptaIBGatewayAdapter) : Same a a := by
  constructor <;> rfl

@[refl] lemma Frame.refl (a : HeptaIBGatewayAdapter) : Frame a a := (Same.refl a).frame

lemma Same.trans (h : Same a b) (h' : Same b c) : Same a c := by
  constructor
  · rw [h'.cfg, h.cfg]
  · rw [h'.attempted, h.attempted]
  · rw [h'.connectionEpoch, h.connectionEpoch]
  · rw [h'.api, h.api]
  · rw [h'.risk, h.risk]
  · rw [h'.exposureGeneration, h.exposureGeneration]
  · rw [h'.fills, h.fills]
  · rw [h'.brokerMutationGeneration, h.brokerMutationGeneration]
  · rw [h'.audit, h.audit]

lemma Frame.trans (h : Frame a b) (h' : Frame b c) : Frame a c where
  cfg := h'.cfg.trans h.cfg
  attempted := h'.attempted.trans h.attempted
  connectionEpoch := h'.connectionEpoch.trans h.connectionEpoch
  transport := h'.transport.trans h.transport
  risk := by
    rcases h'.risk with hr | ⟨reason, hr⟩
    · rw [hr]
      exact h.risk
    refine .inr ⟨reason, ?_⟩
    rw [hr, h.cfg, h.connectionEpoch]
    rcases h.risk with hb | ⟨reason', hb⟩
    · rw [hb]
    · rw [hb, RiskView.invalidate_invalidate]
  exposureGeneration := h.exposureGeneration.trans h'.exposureGeneration
  fills heq := by
    have h₁ := h.exposureGeneration
    have h₂ := h'.exposureGeneration
    rw [h'.fills (by omega), h.fills (by omega)]
  brokerMutationGeneration := h.brokerMutationGeneration.trans h'.brokerMutationGeneration
  calls heq := by
    have h₁ := h.brokerMutationGeneration
    have h₂ := h'.brokerMutationGeneration
    rw [h'.calls (by omega), h.calls (by omega)]
  audit := by
    rcases h'.audit with ⟨ha, hr, he, hm⟩ | hi
    · rw [ha, hr, he, hm]
      exact h.audit
    · exact .inr hi

/-! ### Invalidations -/

variable (a)

variable (reason : String)

lemma same_invalidateCorrelationSnapshot : Same a (a.invalidateCorrelationSnapshot reason) := by
  constructor <;> rfl

lemma same_invalidateTerminalCorrelationSnapshot :
    Same a (a.invalidateTerminalCorrelationSnapshot reason) := by
  constructor <;> rfl

lemma frame_invalidateRecoveryAuditBarrier :
    Frame a (a.invalidateRecoveryAuditBarrier reason) :=
  { Frame.refl a with audit := .inr rfl }

lemma frame_invalidateRiskSnapshot : Frame a (a.invalidateRiskSnapshot reason) :=
  { Frame.refl a with risk := .inr ⟨reason, rfl⟩, audit := .inr rfl }

lemma frame_invalidateViews (act tm risk : String) : Frame a (a.invalidateViews act tm risk) := by
  have hactive := same_invalidateCorrelationSnapshot a act
  have ht := same_invalidateTerminalCorrelationSnapshot (a.invalidateCorrelationSnapshot act) tm
  exact (hactive.trans ht).frame.trans (frame_invalidateRiskSnapshot _ risk)

lemma beginBrokerMutation_spec :
    (∃ b, a.beginBrokerMutation reason = (false, b) ∧ Frame a b) ∨
      a.beginBrokerMutation reason =
        (true, { a with brokerMutationGeneration := a.brokerMutationGeneration + 1 }
          |>.invalidateRecoveryAuditBarrier reason) := by
  unfold beginBrokerMutation
  split_ifs
  · exact .inl ⟨a, rfl, .refl a⟩
  · exact .inl ⟨_, rfl, frame_invalidateRecoveryAuditBarrier a _⟩
  · exact .inr rfl

lemma frame_passToBroker (call : ApiCall)
    (b : HeptaIBGatewayAdapter)
    (h : Same (({ a with brokerMutationGeneration := a.brokerMutationGeneration + 1 }
      |>.invalidateRecoveryAuditBarrier reason).passToBroker call) b) : Frame a b where
  cfg := h.cfg
  attempted := h.attempted
  connectionEpoch := h.connectionEpoch
  transport := by
    rw [h.api]
    cases a.api <;> simp [passToBroker, invalidateRecoveryAuditBarrier, Api.silent]
  risk := .inl h.risk
  exposureGeneration := h.exposureGeneration.ge
  fills _ := h.fills
  brokerMutationGeneration := by
    rw [h.brokerMutationGeneration]
    exact Nat.le_succ _
  calls heq := by
    rw [h.brokerMutationGeneration] at heq
    exact absurd heq (Nat.succ_ne_self _)
  audit := by
    refine .inr ?_
    rw [h.audit]
    rfl

lemma frame_dispatchPendingCancelIfAcknowledged (orderId : Int)
    (st : String) (economicTerminal ack : Bool) :
    Frame a (a.dispatchPendingCancelIfAcknowledged orderId st economicTerminal ack) := by
  unfold dispatchPendingCancelIfAcknowledged
  simp only
  split_ifs
  · exact .refl a
  · exact Same.frame (by constructor <;> rfl)
  · exact .refl a
  · rcases beginBrokerMutation_spec a "IB_RECOVERY_AUDIT_CANCEL_MUTATION" with
      ⟨b, heq, hf⟩ | heq
    · rw [heq]
      exact hf
    · rw [heq]
      exact frame_passToBroker a _ _ _ (by constructor <;> rfl)

/-! ### The view of active orders -/

lemma same_settleCensus (result : Except String OrderCensus) :
    Same a (a.settleCensus result).2 := by
  cases result with
  | ok => constructor <;> rfl
  | error => exact same_invalidateCorrelationSnapshot a ..

lemma same_mergeIncrementalActiveOrder (orderId : Int)
    (corr : String) (brokerClientId brokerPermId : Int) :
    Same a (a.mergeIncrementalActiveOrder orderId corr brokerClientId brokerPermId).2 := by
  unfold mergeIncrementalActiveOrder
  split_ifs
  · exact .refl a
  · exact same_settleCensus a _

variable (e)

lemma same_observeIncrementalProtectiveMetadata :
    Same a (a.observeIncrementalProtectiveMetadata e) := by
  unfold observeIncrementalProtectiveMetadata
  split_ifs
  · exact .refl a
  · exact same_settleCensus a _

lemma same_bindOpenOrder : Same a (a.bindOpenOrder e) := by
  unfold bindOpenOrder
  split_ifs
  · exact .refl a
  split
  · exact .refl a
  split
  · constructor <;> rfl
  · split_ifs
    · exact .refl a
    · exact (same_invalidateCorrelationSnapshot a _).trans
        (same_invalidateTerminalCorrelationSnapshot _ _)

lemma same_acceptOpenOrder : Same a (a.acceptOpenOrder e).2 := by
  unfold acceptOpenOrder
  split_ifs
  · constructor <;> rfl
  · exact .refl a

lemma frame_acknowledgeOpenOrder : Frame a (a.acknowledgeOpenOrder e).2 := by
  unfold acknowledgeOpenOrder
  have ha := same_acceptOpenOrder a e
  have hb := ha.trans (same_bindOpenOrder (a.acceptOpenOrder e).2 e)
  split_ifs
  · exact .refl a
  simp only
  split_ifs
  · exact ha.frame
  · exact hb.frame.trans (frame_dispatchPendingCancelIfAcknowledged _ _ _ _ _)
  · exact hb.frame

lemma same_mergeOpenOrder : Same a (a.mergeOpenOrder e).2 := by
  unfold mergeOpenOrder
  split
  · exact same_mergeIncrementalActiveOrder a _ _ _ _
  split
  · exact same_mergeIncrementalActiveOrder a _ _ _ _
  · split
    · exact same_invalidateCorrelationSnapshot a _
    · exact same_mergeIncrementalActiveOrder a _ _ _ _

lemma same_mergeAcceptedOpenOrder : Same a (a.mergeAcceptedOpenOrder e) := by
  unfold mergeAcceptedOpenOrder
  have hm := same_mergeOpenOrder a e
  simp only
  split_ifs
  · exact hm.trans (same_observeIncrementalProtectiveMetadata _ e)
  · exact hm

lemma frame_correlateOwnAccount : Frame a (a.correlateOwnAccount e).2 := by
  have ha := frame_acknowledgeOpenOrder a e
  unfold correlateOwnAccount
  simp only
  split_ifs
  · exact (ha.trans (same_invalidateCorrelationSnapshot _ _).frame).trans
      (same_mergeAcceptedOpenOrder _ e).frame
  · exact ha.trans (same_invalidateCorrelationSnapshot _ _).frame
  · exact ha.trans (same_mergeAcceptedOpenOrder _ e).frame
  · exact ha

lemma frame_correlateOpenOrderEvent : Frame a (a.correlateOpenOrderEvent e).2 := by
  unfold correlateOpenOrderEvent
  split_ifs
  · exact .refl a
  · exact (same_invalidateCorrelationSnapshot a _).frame
  · exact .refl a
  · exact .refl a
  · exact frame_correlateOwnAccount a e

lemma same_applyActiveCorrelationEvent (accepted : Bool) :
    Same a (a.applyActiveCorrelationEvent e accepted) := by
  unfold applyActiveCorrelationEvent
  split_ifs
  · exact .refl a
  · split <;> constructor <;> rfl

lemma same_retireTerminalActiveOrder (orderId : Int) :
    Same a (a.retireTerminalActiveOrder orderId) := by
  unfold retireTerminalActiveOrder
  split_ifs <;> constructor <;> rfl

lemma same_applyForeignStatus : Same a (a.applyForeignStatus e) := by
  unfold applyForeignStatus
  split_ifs <;> constructor <;> rfl

lemma same_applyForeignError : Same a (a.applyForeignError e) := by
  unfold applyForeignError
  split_ifs <;> constructor <;> rfl

lemma frame_applyOrderStatusTransition : Frame a (a.applyOrderStatusTransition e) := by
  unfold applyOrderStatusTransition
  have hd (t : IbOrderLifecycleTracker) (status : String) (terminal ack : Bool) :
      Frame a ({ a with orderLifecycle := t }.dispatchPendingCancelIfAcknowledged e.id status
        terminal ack) :=
    Frame.trans (Same.frame (by constructor <;> rfl))
      (frame_dispatchPendingCancelIfAcknowledged _ _ _ _ _)
  split
  · exact (same_applyForeignStatus a e).frame
  simp only
  split
  · exact (hd _ _ _ _).trans (same_retireTerminalActiveOrder _ _).frame
  · exact hd _ _ _ _

lemma frame_applyBrokerErrorTransition : Frame a (a.applyBrokerErrorTransition e) := by
  unfold applyBrokerErrorTransition
  split
  · exact .refl a
  split_ifs
  · exact (same_applyForeignError a e).frame
  · apply Frame.trans (Frame.trans (Same.frame _)
      (frame_dispatchPendingCancelIfAcknowledged _ _ _ _ _))
      (same_retireTerminalActiveOrder _ _).frame
    constructor <;> rfl

lemma frame_recordFill (identity : String) :
    Frame a (a.recordFill e identity) where
  cfg := rfl
  attempted := rfl
  connectionEpoch := rfl
  transport := rfl
  risk := .inl rfl
  exposureGeneration := Nat.le_succ _
  fills heq := absurd heq (Nat.succ_ne_self _)
  brokerMutationGeneration := le_rfl
  calls _ := rfl
  audit := .inr rfl

lemma frame_observeFill (identity : String) : Frame a (a.observeFill e identity) := by
  unfold observeFill
  split_ifs
  · exact .refl a
  · apply Frame.trans (Same.frame _) (frame_invalidateViews _ _ _ _)
    constructor <;> rfl
  · exact frame_recordFill a e identity

lemma frame_observeEconomicFill : Frame a (a.observeEconomicFill e) := by
  unfold observeEconomicFill
  split_ifs
  · exact .refl a
  · split
    · exact frame_observeFill a e _
    · exact (frame_invalidateRecoveryAuditBarrier a _).trans (frame_invalidateRiskSnapshot _ _)
  · split
    · exact frame_observeFill a e _
    · exact .refl a

/-! ### The view of terminal orders -/

lemma same_publishLiveTerminalEvidence (orderId : Int) :
    Same a (a.publishLiveTerminalEvidence orderId) := by
  unfold publishLiveTerminalEvidence
  simp only
  split
  · exact .refl a
  split_ifs
  · exact .refl a
  · exact .refl a
  · exact same_invalidateTerminalCorrelationSnapshot a _
  · exact .refl a
  · exact same_invalidateTerminalCorrelationSnapshot a _
  · constructor <;> rfl

lemma same_applyLiveTerminalEvidence : Same a (a.applyLiveTerminalEvidence e) := by
  unfold applyLiveTerminalEvidence
  simp only
  split_ifs
  · exact .refl a
  split
  · exact .refl a
  split_ifs
  · exact .refl a
  · split
    · exact .refl a
    · apply Same.trans _ (same_publishLiveTerminalEvidence _ _)
      constructor <;> rfl

lemma same_publishAll : Same a a.publishAll := by
  unfold publishAll
  generalize a.terminal.liveTerminalBindings.keys.insertionSort (· ≤ ·) = ids
  induction ids generalizing a with
  | nil => exact .refl a
  | cons orderId ids ih => exact (same_publishLiveTerminalEvidence a orderId).trans (ih _)

lemma frame_finalizeTerminalCorrelationSnapshot :
    Frame a a.finalizeTerminalCorrelationSnapshot := by
  unfold finalizeTerminalCorrelationSnapshot
  simp only
  split_ifs
  · exact .refl a
  · exact Same.frame (by constructor <;> rfl)
  · exact (same_invalidateTerminalCorrelationSnapshot a _).frame.trans
      (frame_invalidateRiskSnapshot _ _)
  · apply Same.frame
    apply Same.trans _ (same_publishAll _)
    constructor <;> rfl

lemma frame_applyTerminalDownloadEvent : Frame a (a.applyTerminalDownloadEvent e) := by
  have hs (v : TerminalView) : Frame a { a with terminal := v } :=
    Same.frame (by constructor <;> rfl)
  unfold applyTerminalDownloadEvent
  simp only
  split
  · split_ifs
    · exact .refl a
    · exact hs _
  · split_ifs
    · exact .refl a
    · exact (hs _).trans (frame_finalizeTerminalCorrelationSnapshot _)
  · split_ifs
    · exact .refl a
    · exact hs _
  · split_ifs
    · exact .refl a
    · exact (hs _).trans (frame_finalizeTerminalCorrelationSnapshot _)
  · exact .refl a

/-! ### Turns -/

lemma frame_noteLateEvent : Frame a (a.noteLateEvent e) := by
  unfold noteLateEvent
  split_ifs
  · exact frame_invalidateRecoveryAuditBarrier a _
  · exact .refl a

lemma frame_applyTypedTransition : Frame a (a.applyTypedTransition e) := by
  unfold applyTypedTransition
  split
  · exact Same.frame (by constructor <;> rfl)
  · apply Frame.trans (Same.frame _) (frame_invalidateViews _ _ _ _)
    constructor <;> rfl
  · exact Same.frame (by constructor <;> rfl)
  · exact frame_applyOrderStatusTransition a e
  · exact frame_applyBrokerErrorTransition a e
  · apply Frame.trans (Same.frame _) (frame_invalidateViews _ _ _ _)
    constructor <;> rfl
  · exact .refl a

lemma frame_applyEventStateTransition : Frame a (a.applyEventStateTransition e) := by
  unfold applyEventStateTransition
  split_ifs
  · exact .refl a
  · exact ((frame_noteLateEvent a e).trans (frame_observeEconomicFill _ e)).trans
      (frame_applyTypedTransition _ e)

lemma frame_rejectBoundEvent : Frame a (a.rejectBoundEvent e) := by
  unfold rejectBoundEvent
  have ha := frame_invalidateRecoveryAuditBarrier a
    "IB_RECOVERY_AUDIT_UNTRUSTED_BOUND_ORDER_EVENT"
  simp only
  split_ifs
  · exact ha.trans (frame_invalidateRiskSnapshot _ _)
  · exact ha

lemma frame_quarantine : Frame a (a.quarantineContradictoryOrderStatusIdentity e).2 := by
  have ha (reason : String) : Frame a (a.invalidateCorrelationSnapshot reason) :=
    (same_invalidateCorrelationSnapshot a reason).frame
  unfold quarantineContradictoryOrderStatusIdentity
  split_ifs
  · exact .refl a
  · simp only [statusWithoutPermanentId]
    split_ifs
    · exact ha _
    · exact ha _
    · exact .refl a
  · simp only [rejectIdentity]
    have hr := (ha "IB_ORDER_STATUS_PERMID_IDENTITY_CONFLICT").trans
      (frame_invalidateRecoveryAuditBarrier _
        "IB_RECOVERY_AUDIT_ORDER_STATUS_PERMID_IDENTITY_CONFLICT")
    split_ifs
    · exact hr.trans (frame_invalidateRiskSnapshot _ _)
    · exact hr
  · simp only [statusWithPermanentId]
    split_ifs
    · exact ha _
    · exact ha _
    · exact .refl a

lemma frame_acceptStatus : Frame a (a.acceptStatus e) :=
  (frame_applyEventStateTransition a e).trans (same_applyLiveTerminalEvidence _ e).frame

variable {e}

variable {a}

lemma frame_takeStatus (hc : a.current e) (h : e.type = .orderStatus) :
    Frame a (a.takeEvent e).2 := by
  have hq := frame_quarantine a e
  rw [takeEvent_orderStatus hc]
  cases hr : a.quarantineContradictoryOrderStatusIdentity e with
  | mk dropped b =>
    rw [hr] at hq
    cases dropped with
    | true => exact hq
    | false =>
      simp only
      split_ifs
      · exact hq.trans (frame_rejectBoundEvent b e)
      · rw [acceptEvent_orderStatus h]
        split
        · exact hq.trans (frame_invalidateRiskSnapshot b _)
        · exact hq.trans (frame_acceptStatus b _)

lemma frame_takeEvent (hr : Api.isRiskType e.type = false) (hp : e.type ≠ .portfolioUpdate) :
    Frame a (a.takeEvent e).2 := by
  by_cases hc : a.current e
  · cases ht : e.type with
    | none | connected | connectionClosed | nextValidId | tickPrice | eventQueueOverflow
    | commissionReport =>
      rw [takeEvent_connection hc (by simp [ht])]
      exact frame_applyTypedTransition a e
    | orderStatus => exact frame_takeStatus hc ht
    | error =>
      rw [takeEvent_error hc ht]
      exact ((frame_noteLateEvent a e).trans (frame_applyBrokerErrorTransition _ e)).trans
        (same_applyLiveTerminalEvidence _ e).frame
    | openOrder =>
      rw [takeEvent_openOrder hc ht]
      exact ((frame_correlateOpenOrderEvent a e).trans (frame_noteLateEvent _ e)).trans
        (same_applyActiveCorrelationEvent _ e _).frame
    | openOrderEnd =>
      rw [takeEvent_openOrderEnd hc ht]
      exact (same_applyActiveCorrelationEvent a e _).frame
    | completedOrder =>
      rw [takeEvent_completedOrder hc ht]
      exact (frame_noteLateEvent a e).trans (frame_applyTerminalDownloadEvent _ e)
    | completedOrdersEnd | executionDetailsEnd =>
      rw [takeEvent_downloadEnd hc (by simp [ht])]
      exact frame_applyTerminalDownloadEvent a e
    | executionDetails =>
      rw [takeEvent_executionDetails hc ht]
      split_ifs
      · exact frame_rejectBoundEvent a e
      · exact ((frame_noteLateEvent a e).trans (frame_observeEconomicFill _ e)).trans
          ((same_applyLiveTerminalEvidence _ e).frame.trans (frame_applyTerminalDownloadEvent _ e))
    | portfolioUpdate => exact absurd ht hp
    | accountValue | positionSnapshotItem | positionEnd | positionMonitorUpdate
    | accountSummaryEnd => simp [ht, Api.isRiskType] at hr
  · rw [takeEvent_of_not_current hc]

/-! ### Calls -/

variable (a)

lemma same_recordSubmitted (orderId : Int) (con : InstrumentRef)
    (order : OrderIntent) : Same a (a.recordSubmitted orderId con order) := by
  unfold recordSubmitted
  simp only
  split
  · split_ifs <;> constructor <;> rfl
  · constructor <;> rfl

variable (env : PlaceEnv)

lemma frame_submitValidatedOrder (orderId : Int) (con : InstrumentRef) (order : OrderIntent) :
    Frame a (a.submitValidatedOrder env orderId con order).2 := by
  unfold submitValidatedOrder
  rcases beginBrokerMutation_spec a "IB_RECOVERY_AUDIT_PLACE_MUTATION" with ⟨b, heq, hf⟩ | heq
  · rw [heq]
    exact hf
  rw [heq]
  simp only
  split_ifs
  · exact frame_passToBroker a _ _ _ (same_recordSubmitted _ orderId con order)
  · exact frame_passToBroker a _ _ _ (by constructor <;> rfl)

lemma frame_placeOrderInternal (con : InstrumentRef) (order : OrderIntent) :
    Frame a (a.placeOrderInternal env con order).2 := by
  have hx : Same a (a.nextOrderId env.lastValidOrderId).2 := by constructor <;> rfl
  unfold placeOrderInternal
  split
  · exact .refl a
  split
  · exact .refl a
  simp only
  split
  · exact hx.frame.trans (frame_submitValidatedOrder _ env _ con order)
  · exact hx.frame

lemma frame_placeOrder (con : InstrumentRef)
    (order : OrderIntent) : Frame a (a.placeOrder env con order).2 := by
  unfold placeOrder
  split_ifs
  · exact .refl a
  · exact frame_placeOrderInternal a env con order

lemma frame_placeCorrelated (con : InstrumentRef)
    (order : OrderIntent) (venueCorrelationId : String) :
    Frame a (a.placeCorrelated env con order venueCorrelationId).2 := by
  unfold placeCorrelated
  split
  · exact .refl a
  split
  · exact .refl a
  rename_i orderRef _
  have hp := frame_placeOrderInternal a env con { order with orderRef }
  split
  · rename_i heq
    rwa [heq] at hp
  · rename_i heq
    rw [heq] at hp
    exact hp.trans (same_mergeIncrementalActiveOrder _ _ _ _ _).frame

lemma frame_placeReduceOnlyOrderCorrelated
    (r : ReduceOnlyRequest) : Frame a (a.placeReduceOnlyOrderCorrelated env r).2 := by
  unfold placeReduceOnlyOrderCorrelated
  split_ifs
  · exact frame_placeCorrelated a env _ _ _
  · exact .refl a

lemma frame_cancelOrder (orderId : Int) : Frame a (a.cancelOrder orderId) := by
  unfold cancelOrder
  split
  · exact .refl a
  split
  · split
    · exact Same.frame (by constructor <;> rfl)
    · exact .refl a
  · rcases beginBrokerMutation_spec a "IB_RECOVERY_AUDIT_CANCEL_MUTATION" with
      ⟨b, heq, hf⟩ | heq
    · rw [heq]
      exact hf
    · rw [heq]
      exact frame_passToBroker a _ _ _ (Same.refl _)

lemma same_beginOpenOrderRefresh : Same a a.beginOpenOrderRefresh.2 := by
  unfold beginOpenOrderRefresh
  split_ifs <;> constructor <;> rfl

lemma same_reqTerminalCorrelations : Same a a.reqTerminalCorrelations.2 := by
  unfold reqTerminalCorrelations
  simp only
  split_ifs <;> constructor <;> rfl

lemma same_acknowledgePostFillRiskReconciled (orderId : Int) :
    Same a (a.acknowledgePostFillRiskReconciled orderId).2 := by
  unfold acknowledgePostFillRiskReconciled
  split
  · exact .refl a
  split_ifs
  · exact .refl a
  · apply Same.trans _ (same_retireTerminalActiveOrder _ orderId)
    constructor <;> rfl

lemma same_markAuthoritativeResyncComplete (ogen : ℕ) :
    Same a (a.markAuthoritativeResyncComplete ogen) := by
  unfold markAuthoritativeResyncComplete
  split_ifs <;> constructor <;> rfl

lemma beginRecoveryAuditBarrier_eq :
    a.beginRecoveryAuditBarrier.2 = a ∨ a.beginRecoveryAuditBarrier.2 = a.demandNewEpoch := by
  unfold beginRecoveryAuditBarrier
  simp only
  split_ifs <;> simp

end HeptaIBGatewayAdapter

end Hepta
