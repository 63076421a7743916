import Hepta.Execution.Move

/-!
# The moves of a cancel

The parts of a cancel as stretches of work, and from them the moves of its start, of the end of
the eligibility read and of the return of its venue call.
-/

namespace Hepta

open OmsJournal RequestRecord Finmap

namespace System

variable {S : Service} {A : Allowance} {s s' : System} {command : CancelOrderCommand}
  {dispatch : CancelDispatchContext} {io : Io}

lemma cancelEvent_belongs {tsMs : Int} {eventType : EventType} {status reason riskCode : String}
    (hi : command.context.identified = true) (hc : eventType.isCommand = true) :
    (cancelEvent tsMs command dispatch eventType status reason riskCode).Belongs
      (pendingCancel command dispatch) :=
  ⟨(isCommand_buildEvent hi).trans hc, identity_buildEvent (toolCallId_ne_empty hi), .inl rfl⟩

lemma not_unsettled_of_cancel {r : RequestRecord} (h : r.operation = .cancel) : ¬ r.unsettled := by
  rintro ⟨-, ho | ho⟩ <;> simp [h] at ho

/-! ### After the venue call -/

/-- A cancel under way: its record is stored, in a coordinator whose journal is in order. -/
structure CancelStored (S : Service) (s : System) (command : CancelOrderCommand)
    (dispatch : CancelDispatchContext) : Prop where
  identified : command.context.identified = true
  stored : s.requests.lookup dispatch.requestKey = some (pendingCancel command dispatch)
  ordered : Ordered S.config s.journal

/-- Every part of the end of a cancel closes the command in this way. -/
abbrev ClosesCancel (S : Service) (A : Allowance) (command : CancelOrderCommand)
    (dispatch : CancelDispatchContext) (stage : Stage) (s s' : System) : Prop :=
  Closes S A dispatch.requestKey (pendingCancel command dispatch)
    (Stems (pendingCancel command dispatch)) stage notReconnect (fun _ => True) s s'

variable (h : CancelStored S s command dispatch)

include h

lemma deferredCancel_closes
    (hio : Sound A s.journal (io.file 0)) :
    ClosesCancel S A command dispatch (.attempted .cancel) s
      (s.deferredCancel S command dispatch io).1 := by
  obtain ⟨hi, -, ho⟩ := h
  rcases appendOrBlock_cases ho hio (cancelEvent (io.clock 0) command dispatch .cancel
    "cancel_pending" "waiting for broker order acknowledgement"
    "IB_CANCEL_DEFERRED_UNTIL_BROKER_ACK") "OMS_CANCEL_PENDING_RECEIPT_WRITE_FAILED" with
    ⟨j', heq, ha⟩ | ⟨j', heq, hr⟩
  · simp only [deferredCancel, heq, if_true]
    refine Closes.settled ha rfl rfl (cancelEvent_belongs hi rfl) rfl
      (show Stage.next (.attempted .cancel) _ = some (.unresolved .cancel) from rfl)
      (fun _ => rfl) ?_ (fun h => absurd h (not_unsettled_of_cancel rfl)) trivial
    intro folded hs
    exact hs.agrees (cancelEvent_belongs hi rfl) rfl rfl rfl rfl rfl rfl rfl
  · simp only [deferredCancel, heq, Bool.false_eq_true, if_false]
    exact Closes.spoiled hr rfl (Inherits.refl _ _) (cancelEvent_belongs hi rfl) rfl
      (inert_of_reasonCode rfl) rfl trivial

lemma uncertainCancelOutcome_closes
    (hio : Sound A s.journal (io.file 0)) (detail : String) :
    ClosesCancel S A command dispatch (.attempted .cancel) s
      (s.uncertainCancelOutcome S command dispatch detail io).1 := by
  obtain ⟨hi, hr, ho⟩ := h
  -- admission is closed and the record stored before the append
  let doubtful : RequestRecord := { pendingCancel command dispatch with
    status := .uncertain, reasonCode := recoveryReconcileRequired,
    detail := uncertainCancelDetail detail }
  let closed : System :=
    (s.block recoveryReconcileRequired).putRecord dispatch.requestKey doubtful
  have hc : (s.block recoveryReconcileRequired).modifyRecord dispatch.requestKey
      (fun record => { record with
        status := .uncertain, reasonCode := recoveryReconcileRequired,
        detail := uncertainCancelDetail detail }) = closed :=
    modifyRecord_of_lookup (s.block recoveryReconcileRequired) hr _
  have hp : ∀ record : RequestRecord,
      closed.requests.insert dispatch.requestKey record =
        s.requests.insert dispatch.requestKey record := fun _ => insert_insert _
  rcases appendOrBlock_cases (s := closed) ho hio (cancelEvent (io.clock 0) command dispatch .cancel
    "cancel_pending" (uncertainCancelDetail detail) recoveryReconcileRequired)
    "OMS_CANCEL_UNCERTAIN_WRITE_FAILED" with ⟨j', heq, ha⟩ | ⟨j', heq, hf⟩
  · have hs' : (s.uncertainCancelOutcome S command dispatch detail io).1 = closed.setJournal j' := by
      simp only [uncertainCancelOutcome, hc, heq]
    rw [hs']
    refine Closes.settled ha rfl rfl (cancelEvent_belongs hi rfl) rfl
      (show Stage.next (.attempted .cancel) _ = some (.unresolved .cancel) from rfl)
      (fun _ => rfl) ?_ (fun _ => rfl) trivial
    intro folded ht
    exact ht.agrees (cancelEvent_belongs hi rfl) rfl rfl rfl rfl rfl rfl rfl
  · have hs' : (s.uncertainCancelOutcome S command dispatch detail io).1 =
        ((closed.setJournal j').block "OMS_CANCEL_UNCERTAIN_WRITE_FAILED").putRecord
          dispatch.requestKey
          { doubtful with reasonCode := "OMS_CANCEL_UNCERTAIN_WRITE_FAILED" } := by
      simp only [uncertainCancelOutcome, hc, heq]
      exact modifyRecord_of_lookup _ (lookup_insert _) _
    rw [hs']
    exact Closes.spoiled hf (hp _) (Inherits.refl _ _) (cancelEvent_belongs hi rfl) rfl
      (inert_of_reasonCode rfl) rfl trivial

lemma cancelProjectionFailure_closes
    (hio : Sound A s.journal (io.file 1)) (rs : String) :
    ClosesCancel S A command dispatch (.sent .cancel) s
      (s.cancelProjectionFailure S command dispatch rs io).1 := by
  obtain ⟨hi, -, ho⟩ := h
  rcases appendOrBlock_cases ho hio (cancelEvent (io.clock 1) command dispatch
    .executionProjectionFailed "cancel_projection_failed" rs
    "AUTHORITATIVE_CANCEL_PROJECTION_FAILED") "OMS_EXECUTION_PROJECTION_FAILURE_WRITE_FAILED" with
    ⟨j', heq, ha⟩ | ⟨j', heq, hr⟩
  · simp only [cancelProjectionFailure, heq, if_true]
    refine Closes.settled ha rfl rfl (cancelEvent_belongs hi rfl) rfl
      (show Stage.next (.sent .cancel) _ = some (.projectionFailed .cancel) from rfl)
      (inert.fits (inert_of_reasonCode rfl) _) ?_ (fun _ => rfl) trivial
    intro folded hs
    exact hs.agrees (cancelEvent_belongs hi rfl) rfl rfl hs.operation rfl rfl rfl rfl
  · simp only [cancelProjectionFailure, heq, Bool.false_eq_true, if_false]
    exact Closes.spoiled hr rfl (Inherits.refl _ _) (cancelEvent_belongs hi rfl) rfl
      (inert_of_reasonCode rfl) rfl trivial

lemma completeCancel_closes
    (hio : ∀ n, Sound A s.journal (io.file n)) (projection : CheckReply) :
    ClosesCancel S A command dispatch (.attempted .cancel) s
      (s.completeCancel S command dispatch projection io).1 := by
  obtain ⟨hi, hr, ho⟩ := h
  have hb : (cancelEvent (io.clock 0) command dispatch .cancel "cancel_sent" "" "").Belongs
      (pendingCancel command dispatch) := cancelEvent_belongs hi rfl
  rcases appendOrBlock_cases ho (hio 0) (cancelEvent (io.clock 0) command dispatch .cancel
    "cancel_sent" "" "") "OMS_CANCEL_RECEIPT_WRITE_FAILED" with ⟨j', heq, ha⟩ | ⟨j', heq, hf⟩
  · rcases hp : (if S.callbacks.onIbCancelSent = true then
        projection.eval "unknown cancel projection exception" else (true, "")) with ⟨_ | _, why⟩
    · simp only [completeCancel, heq, hp, Bool.false_eq_true, if_false]
      refine (cancelProjectionFailure_closes (s := s.setJournal j') ⟨hi, hr, ha.ordered⟩
        (ha.next_sound (hio 1)) why).cons ha.enters ha.sound rfl rfl
        hb rfl ?_
      intro folded hs
      exact hs.absorb hb rfl
    · simp only [completeCancel, heq, hp, if_true]
      refine Closes.settled ha rfl rfl hb rfl
        (show Stage.next (.attempted .cancel) _ = some (.sent .cancel) from rfl)
        (inert.fits (inert_of_status (by simp [cancelRecord])) _) ?_
        (fun h => absurd h (not_unsettled_of_cancel rfl)) trivial
      intro folded hs
      exact hs.agrees hb rfl rfl rfl rfl rfl rfl rfl
  · simp only [completeCancel, heq]
    exact Closes.spoiled hf rfl (Inherits.refl _ _) hb rfl (inert_of_reasonCode rfl) rfl trivial

omit h

def rejectedCancel (command : CancelOrderCommand) (dispatch : CancelDispatchContext)
    (reasonCode detail : String) : RequestRecord :=
  { pendingCancel command dispatch with
    status := .rejected, reasonCode := reasonCode, detail := detail }

variable (hkey : dispatch.requestKey = command.context.requestKey)

include hkey

lemma reject_pendingCancel (hi : command.context.identified = true)
    (hr : s.requests.lookup dispatch.requestKey = some (pendingCancel command dispatch))
    (rc det : String) :
    (s.reject command.context rc det command.orderId dispatch.requestHash).1 =
      s.putRecord dispatch.requestKey (rejectedCancel command dispatch rc det) := by
  rw [hkey] at hr ⊢
  exact reject_of_lookup hr (toolCallId_ne_empty hi) rfl (agentId_ne_empty hi) _ _ _

lemma rejectCancel_closes (h : CancelStored S s command dispatch) {file : AppendIo}
    (hio : Sound A s.journal file) (det : String) (tsMs : Int) : ClosesCancel S A command
    dispatch (.attempted .cancel) s
      ((s.appendOrBlock S (cancelEvent tsMs command dispatch .reject "rejected" det
        "IB_CANCEL_REJECT") "OMS_CANCEL_REJECT_WRITE_FAILED" file).2.reject command.context
        "IB_CANCEL_REJECT" det command.orderId dispatch.requestHash).1 := by
  obtain ⟨hi, hr, ho⟩ := h
  rcases appendOrBlock_cases ho hio (cancelEvent tsMs command dispatch .reject "rejected" det
    "IB_CANCEL_REJECT") "OMS_CANCEL_REJECT_WRITE_FAILED" with ⟨j', heq, ha⟩ | ⟨j', heq, hf⟩
  · simp only [heq]
    rw [reject_pendingCancel (s := s.setJournal j') hkey hi hr]
    refine Closes.settled ha rfl rfl (cancelEvent_belongs hi rfl) rfl
      (show Stage.next (.attempted .cancel) _ = some (.closed .cancel) from rfl)
      (inert.fits (inert_of_status (by simp [rejectedCancel])) _) ?_
      (fun h => absurd h (not_unsettled_of_cancel rfl)) trivial
    intro folded hs
    refine hs.agrees (cancelEvent_belongs hi rfl) rfl rfl ?_ rfl rfl rfl rfl
    have hp : folded.operation = .cancel := hs.operation
    simp [absorb, hydrate, applyCommandState, cancelEvent, buildEvent, hp, pendingCancel,
      cancelRecord]
  · simp only [heq]
    rw [reject_pendingCancel (s := (s.setJournal j').block _) hkey hi hr]
    exact Closes.spoiled hf rfl (Inherits.refl _ _) (cancelEvent_belongs hi rfl) rfl
      (inert_of_status (by simp [rejectedCancel])) rfl trivial

lemma settleCancel_closes
    (h : CancelStored S s command dispatch) (hi : ∀ n, Sound A s.journal (io.file n))
    (outcome : VenueCancelResult) (projection : CheckReply) :
    ClosesCancel S A command dispatch (.attempted .cancel) s
      (s.settleCancel S command dispatch outcome projection io).1 := by
  have hu := fun det =>
    uncertainCancelOutcome_closes (A := A) h (hi 0) det
  cases hd : outcome.disposition with
  | deferred =>
    simp only [settleCancel, hd]
    exact deferredCancel_closes h (hi 0)
  | rejectedBeforeSend =>
    simp only [settleCancel, hd]
    split_ifs with ht
    · exact hu _
    · exact rejectCancel_closes hkey h (hi 0) _ _
  | uncertain =>
    simp only [settleCancel, hd]
    exact hu _
  | submitted =>
    simp only [settleCancel, hd]
    exact completeCancel_closes h hi _

omit hkey

theorem cancelReturned_move (h : Coherent S s) (hm : .cancel command dispatch ∈ s.dispatches)
    (ho : ∀ n, Sound A s.journal (io.file n)) (reply : VenueReply VenueCancelResult)
    (projection : CheckReply) :
    Move S A s (s.cancelReturned S command dispatch reply projection io).1 := by
  obtain ⟨hr, hkey, hi⟩ := h.pending _ hm
  exact .returned hm (settleCancel_closes (s := s.callReturned (.cancel command dispatch)) hkey
    ⟨hi, hr, h.ordered⟩ ho (cancelOutcome reply) projection)

/-! ### Before the venue call -/

/-- A cancel that passes the checks is new, and the coordinator at most awaits reconciliation. -/
lemma cancelRecheck_none (h : s.cancelRecheck S command = none) :
    s.requests.lookup command.context.requestKey = none ∧
      (s.mutationBlocked = true → s.mutationBlockReason = recoveryReconcileRequired) := by
  have ha := firstRefusal_eq_none.mp h
  simp only [List.forall_mem_cons, ite_eq_right_iff, reduceCtorEq, imp_false,
    Option.map_eq_none_iff, not_and_or, not_not] at ha
  obtain ⟨hf, -, hl, -⟩ := ha
  exact ⟨hf, fun hb => hl.resolve_left fun h => h hb⟩

lemma cancelRefusal_none (h : s.cancelRefusal S command = none) :
    command.context.identified = true ∧ cancelRequestHash S command ≠ "" ∧
      s.cancelRecheck S command = none := by
  have ha := firstRefusal_eq_none.mp h
  simp only [List.forall_mem_cons, ite_eq_right_iff, reduceCtorEq, imp_false] at ha
  obtain ⟨hi, hh, hr, -⟩ := ha
  exact ⟨by simpa using hi, hh, hr⟩

lemma agrees_cancelIntent (hi : command.context.identified = true) (tsMs : Int) :
    Agrees (pendingCancel command dispatch)
      (absorb {} (cancelEvent tsMs command dispatch .cancel "intent_recorded" "" "")) := by
  have hb : (cancelEvent tsMs command dispatch .cancel "intent_recorded" "" "").Belongs
      (pendingCancel command dispatch) := cancelEvent_belongs hi rfl
  refine ⟨?_, ?_, rfl, rfl, rfl, .inr ⟨rfl, rfl⟩⟩
  · rw [← hb.identity]
    simp [RequestRecord.identity, OmsJournalEvent.identity]
  · simp [pendingCancel, cancelRecord, cancelEvent, buildEvent]

/-- The attempt carries the fold of the intent along. -/
lemma agrees_cancelAttempt (hi : command.context.identified = true) (tsMs : Int)
    {folded : RequestRecord} (h : Agrees (pendingCancel command dispatch) folded) :
    Agrees (pendingCancel command dispatch) (folded.absorb
      (cancelEvent tsMs command dispatch .cancelSendAttempt "attempt_recorded" "" "")) := by
  have hb : (cancelEvent tsMs command dispatch .cancelSendAttempt "attempt_recorded" ""
      "").Belongs (pendingCancel command dispatch) := cancelEvent_belongs hi rfl
  have hs := h.stems.absorb hb rfl
  exact ⟨hs.identity hb.identity, hs.venueCorrelationId.symm, hs.operation.symm,
    rfl, rfl, .inr ⟨rfl, rfl⟩⟩

/-- From the intent of a cancel to its rejection or its venue call. -/
lemma sendCancel_move (hd : command.context.identified = true)
    (hf : s.requests.lookup command.context.requestKey = none)
    (hbl : s.mutationBlocked = true → s.mutationBlockReason = recoveryReconcileRequired)
    (ho : Ordered S.config s.journal) (hl : A.call .cancel)
    (hio : ∀ n, Sound A s.journal (io.file n)) : Move S A s (s.sendCancel S command io).1 := by
  set dispatch := s.cancelDispatch S command with hp
  let intent := cancelEvent (io.clock 0) command dispatch .cancel "intent_recorded" "" ""
  let attempt := cancelEvent (io.clock 1) command dispatch .cancelSendAttempt "attempt_recorded" "" ""
  have hi : intent.Belongs (pendingCancel command dispatch) :=
    cancelEvent_belongs hd rfl
  have ht : attempt.Belongs (pendingCancel command dispatch) :=
    cancelEvent_belongs hd rfl
  rcases appendOrBlock_cases ho (hio 0) intent "OMS_CANCEL_INTENT_WRITE_FAILED" with
    ⟨j₁, heq, ha⟩ | ⟨j₁, heq, hr⟩
  · let stored := (s.setJournal j₁).putRecord dispatch.requestKey (pendingCancel command dispatch)
    rcases appendOrBlock_cases (s := stored) ha.ordered (ha.next_sound (hio 1)) attempt
      "OMS_CANCEL_SEND_ATTEMPT_WRITE_FAILED" with ⟨j', heq', ha'⟩ | ⟨j', heq', hr'⟩
    · have hs' : (s.sendCancel S command io).1 =
          ((stored.setJournal j').reserve (.cancel command dispatch)).callVenue
            (.cancel command dispatch) := by
        simp only [sendCancel, ← hp]
        simp only [intent] at heq
        simp only [stored, attempt] at heq'
        rw [heq]
        simp only []
        rw [heq']
        rfl
      rw [hs']
      have hop : Writes S A dispatch.requestKey (pendingCancel command dispatch) (· = {})
          .fresh s [intent, attempt] (pendingCancel command dispatch) (stored.setJournal j') :=
        .opening ha.enters ha.sound ha' rfl (inert_of_reasonCode rfl) ⟨rfl, rfl⟩ ⟨hi, ht⟩
          ⟨rfl, rfl⟩ (fun _ => ⟨rfl, rfl⟩) ⟨rfl, rfl⟩
          (agrees_cancelAttempt hd _ (agrees_cancelIntent hd _))
      refine Move.of_callVenue hf ⟨rfl, hd⟩ hop rfl
        (fun hy => ⟨attempt, ha'.durable hy rfl, rfl, ht⟩) rfl ⟨rfl, rfl⟩
        (fun hb => ⟨hbl hb, rfl⟩) trivial rfl
        ((show Tracks _ s (stored.setJournal j') from Tracks.of_eq rfl).indexes (.inr ?_) ?_)
        hl
      · simp only [List.forall_mem_cons]
        exact ⟨nofun, nofun, by simp⟩
      · simp only [List.forall_mem_cons]
        exact ⟨nofun, nofun, by simp⟩
    · have hs' : (s.sendCancel S command io).1 =
          ((stored.setJournal j').block "OMS_CANCEL_SEND_ATTEMPT_WRITE_FAILED").putRecord
            dispatch.requestKey (rejectedCancel command dispatch
              "OMS_CANCEL_SEND_ATTEMPT_WRITE_FAILED" "cancel was not sent") := by
        simp only [sendCancel, ← hp]
        simp only [intent] at heq
        simp only [stored, attempt] at heq'
        rw [heq]
        simp only []
        rw [heq']
        exact reject_pendingCancel (s := (stored.setJournal j').block _) rfl hd
          (lookup_insert _) _ _
      rw [hs']
      have hsp : Closes S A dispatch.requestKey (pendingCancel command dispatch) (fun _ =>
          True) (.intended .cancel) isLasting s.Spared (s.setJournal j₁)
          (((stored.setJournal j').block "OMS_CANCEL_SEND_ATTEMPT_WRITE_FAILED").putRecord
            dispatch.requestKey (rejectedCancel command dispatch
              "OMS_CANCEL_SEND_ATTEMPT_WRITE_FAILED" "cancel was not sent")) :=
        Closes.spoiled hr' (insert_insert _) (Inherits.refl _ _) ht rfl
          (inert_of_status (by simp [rejectedCancel])) rfl (fun _ _ => rfl)
      exact @Move.opened S A s _ (pendingCancel command dispatch) hf hd
        (hsp.cons ha.enters ha.sound rfl rfl hi rfl (fun _ _ => trivial))
  · have hs' : (s.sendCancel S command io).1 =
        ((s.setJournal j₁).block "OMS_CANCEL_INTENT_WRITE_FAILED").putRecord dispatch.requestKey
          { status := .rejected, orderId := command.orderId,
            reasonCode := "OMS_CANCEL_INTENT_WRITE_FAILED", detail := "cancel was not sent",
            requestHash := dispatch.requestHash, context := command.context } := by
      simp only [sendCancel, ← hp]
      simp only [intent] at heq
      rw [heq]
      exact reject_of_fresh (s := (s.setJournal j₁).block _) hf (toolCallId_ne_empty hd) _ _ _
    rw [hs']
    exact @Move.opened S A s _ (pendingCancel command dispatch) hf hd
      (Closes.spoiled hr rfl (Inherits.refl _ _) hi rfl
        (inert_of_status (by simp)) rfl (fun _ _ => rfl))

/-- A cancel up to its eligibility read or its venue call. -/
theorem cancelOrder_moves (h : Coherent S s) (ha : A.call .cancel)
    (ho : ∀ n, Sound A s.journal (io.file n)) : Moves S A s (s.cancelOrder S command io).1 := by
  cases hr : s.cancelRefusal S command with
  | some =>
    simp only [cancelOrder, hr]
    exact .refl
  | none =>
    obtain ⟨hi, hh, hc⟩ := cancelRefusal_none hr
    obtain ⟨hf, hb⟩ := cancelRecheck_none hc
    simp only [cancelOrder, hr]
    split_ifs with hd hs
    · exact .single (sendCancel_move hi hf hb h.ordered ha ho)
    · exact .refl
    · refine .single (.preflight fun command' hm => ?_)
      rcases List.mem_cons.mp hm with rfl | hm
      · exact .inr ⟨hi, hh⟩
      · exact .inl hm

/-- A cancel from the end of its eligibility read up to its venue call. -/
theorem cancelPreflightReturned_moves (h : Coherent S s) (hm : command ∈ s.preflights)
    (ha : A.call .cancel) (hi : ∀ n, Sound A s.journal (io.file n)) (reply : CheckReply) :
    Moves S A s (s.cancelPreflightReturned S command reply io).1 := by
  let read : System := { s with
    cancelPreflightsInFlight := s.cancelPreflightsInFlight.erase command.orderId
    preflights := s.preflights.erase command }
  have hd : Move S A s read := .preflight fun _ h => .inl (List.mem_of_mem_erase h)
  cases hr : read.cancelRecheck S command with
  | some =>
    simp only [cancelPreflightReturned, read] at hr ⊢
    rw [hr]
    exact .single hd
  | none =>
    obtain ⟨hf, hb⟩ := cancelRecheck_none hr
    simp only [cancelPreflightReturned, read] at hr ⊢
    rw [hr]
    simp only []
    by_cases hs : (!(cancelEligibility reply).1) = true ∧
        (cancelEligibility reply).2 ≠ "NO_BROKER_ACK"
    · rw [if_pos hs]
      exact .single hd
    · rw [if_neg hs]
      exact (Relation.ReflTransGen.single hd).tail
        (sendCancel_move (s := read) (h.preflights _ hm).1 hf hb h.ordered
          ha hi)

end System

end Hepta
