import Hepta.Execution.Move

/-!
# The moves of a flatten

The parts of a flatten as stretches of work. A flatten may be rejected before its intent, after
its intent and after its send attempt, so the rejection is stated for all three.
-/

namespace Hepta

open OmsJournal RequestRecord Finmap

namespace System

variable {S : Service} {A : Allowance} {s s' : System} {command : FlattenPositionCommand}
  {plan : AuthoritativeFlattenPlan} {dispatch : AuthoritativeFlattenDispatchContext}
  {start : RequestRecord → Prop} {stage : Stage} {reasons : String → Bool}
  {final : RequestRecord → Prop} {orderId : Int} {io : Io} {j₁ : OmsJournal}

lemma flattenEvent_belongs {tsMs : Int} {eventType : EventType} {orderId : Int}
    {status reason riskCode : String} (hid : command.context.identified = true)
    (hc : eventType.isCommand = true) :
    (flattenEvent tsMs command plan dispatch eventType orderId status reason riskCode).Belongs
      (pendingFlatten command plan dispatch) :=
  ⟨(isCommand_buildEvent hid).trans hc, identity_buildEvent (toolCallId_ne_empty hid), .inl rfl⟩

/-! ### Rejections -/

/-- `RejectLocked` for a flatten, whether or not its record is there. -/
lemma reject_flatten (hkey : dispatch.requestKey = command.context.requestKey)
    (hid : command.context.identified = true)
    (hr : s.requests.lookup dispatch.requestKey = none ∨
      s.requests.lookup dispatch.requestKey = some (pendingFlatten command plan dispatch))
    (reasonCode det : String) :
    ∃ record, (s.reject command.context reasonCode det (-1) dispatch.requestHash).1 =
        s.putRecord dispatch.requestKey record ∧
      record.identity = (pendingFlatten command plan dispatch).identity ∧
      record.status = .rejected ∧ record.orderId = -1 ∧ record.reasonCode = reasonCode := by
  rw [hkey] at hr ⊢
  rcases hr with hr | hr
  · exact ⟨_, reject_of_fresh hr (toolCallId_ne_empty hid) _ _ _, rfl, rfl, rfl, rfl⟩
  · exact ⟨_, reject_of_lookup hr (toolCallId_ne_empty hid) rfl (agentId_ne_empty hid) _ _ _, rfl,
      rfl, rfl, rfl⟩

lemma next_flattenReject (hs : stage = .fresh ∨ stage = .intended .flatten ∨
      stage = .attempted .flatten) (e : OmsJournalEvent)
    (he : e.eventType = .flattenReject) : stage.next e = some (.closed .flatten) := by
  rcases hs with rfl | rfl | rfl <;>
    simp [Stage.next, Stage.outcome, Stage.resolvedBy, he]

lemma agrees_flattenReject {base folded live : RequestRecord} {e : OmsJournalEvent}
    (he : e.eventType = .flattenReject) (hb : base.operation = .flatten)
    (ht : folded = {} ∨ Stems base folded) (hid : e.identity = base.identity)
    (hc : e.venueCorrelationId = base.venueCorrelationId) (hi : live.identity = base.identity)
    (hl : live.venueCorrelationId = base.venueCorrelationId) (hv : live.operation = .flatten)
    (ho : live.orderId = e.orderId) (hss : live.status = .rejected)
    (hr : live.reasonCode = e.riskCode) : Agrees live (folded.absorb e) := by
  have hh : e.requestHash = base.requestHash := congrArg CommandIdentity.requestHash hid
  have hs : (folded.absorb e).status = .rejected ∧
      (folded.absorb e).reasonCode = e.riskCode := by
    simp [absorb, applyCommandState, he]
  have hp : (folded.absorb e).operation = .flatten := by
    have hf : folded.operation = .unset ∨ folded.operation = .flatten :=
      ht.imp (fun h => by rw [h]) fun h => h.operation.trans hb
    rcases hf with h | h <;> simp [absorb, applyCommandState, hydrate, he, h]
  have hk : (folded.absorb e).requestHash = base.requestHash ∧
      (folded.absorb e).venueCorrelationId = base.venueCorrelationId := by
    rcases ht with rfl | h
    · simp [hh, hc]
    · simp [h.requestHash, h.venueCorrelationId, hh, hc]
  refine ⟨?_, by rw [hl, hk.2], by rw [hv, hp], by rw [hss, hs.1], by simp [ho],
    .inl (by rw [hr, hs.2])⟩
  rw [hi, ← hid]
  simp only [OmsJournalEvent.identity, RequestRecord.identity, absorb_agentId, absorb_sessionId,
    absorb_toolCallId, hk.1, hh]

lemma rejectFlatten_closes (hkey : dispatch.requestKey = command.context.requestKey)
    (hid : command.context.identified = true)
    (hc : s.requests.lookup dispatch.requestKey = none ∨
      s.requests.lookup dispatch.requestKey = some (pendingFlatten command plan dispatch))
    (ht : stage = .fresh ∨ stage = .intended .flatten ∨ stage = .attempted .flatten)
    (hsr : ∀ folded, start folded →
      folded = {} ∨ Stems (pendingFlatten command plan dispatch) folded)
    (ho : Ordered S.config s.journal) {file : AppendIo} (hio : Sound A s.journal file)
    (he : reasons "OMS_FLATTEN_REJECT_WRITE_FAILED" = true)
    (hf : ∀ record : RequestRecord, record.status = .rejected → final record)
    (rc det : String) (tsMs : Int) :
    Closes S A dispatch.requestKey (pendingFlatten command plan dispatch) start stage reasons final
      s (s.rejectFlatten S command plan dispatch rc det tsMs file).1 := by
  have hnext := next_flattenReject ht (flattenEvent tsMs command plan dispatch
    .flattenReject (-1) "rejected" det rc) rfl
  rcases appendOrBlock_cases ho hio (flattenEvent tsMs command plan dispatch .flattenReject (-1)
    "rejected" det rc) "OMS_FLATTEN_REJECT_WRITE_FAILED" with
    ⟨j', heq, happ⟩ | ⟨j', heq, hrf⟩
  · obtain ⟨record, hr, hi, hstatus, hor, hrs⟩ :=
      reject_flatten (s := s.setJournal j') hkey hid hc rc det
    let rejected : RequestRecord := { record with
      venueCorrelationId := dispatch.venueCorrelationId
      operation := .flatten
      context := command.context
      instrument := command.instrument
      side := plan.order.action
      quantity := plan.order.totalQuantity
      price := plan.auditPrice }
    have hs' : (s.rejectFlatten S command plan dispatch rc det tsMs file).1 =
        ((s.setJournal j').putRecord dispatch.requestKey record).putRecord dispatch.requestKey
          rejected := by
      simp only [rejectFlatten, heq, hr]
      exact modifyRecord_of_lookup _ (lookup_insert _) _
    have hj : rejected.identity = (pendingFlatten command plan dispatch).identity :=
      congrArg (fun hash => (⟨command.context.agentId, command.context.sessionId,
        command.context.toolCallId, hash⟩ : CommandIdentity))
        (congrArg CommandIdentity.requestHash hi)
    rw [hs']
    refine Closes.settled happ (insert_insert _) rfl (flattenEvent_belongs hid rfl) hj hnext
      (inert.fits (inert_of_status (by simp [rejected, hstatus])) _) ?_
      (fun h => absurd h.1 (by simp [rejected, hstatus])) (hf _ hstatus)
    intro folded hl
    exact agrees_flattenReject rfl rfl (hsr folded hl)
      (flattenEvent_belongs hid rfl).identity rfl hj rfl rfl hor hstatus hrs
  · obtain ⟨_, hr, hi, hstatus, -⟩ :=
      reject_flatten (s := (s.setJournal j').block "OMS_FLATTEN_REJECT_WRITE_FAILED") hkey hid hc
        "OMS_FLATTEN_REJECT_WRITE_FAILED" "flatten rejection audit failed"
    simp only [rejectFlatten, heq, hr]
    exact Closes.spoiled hrf rfl (Inherits.refl _ _) (flattenEvent_belongs hid rfl) hi
      (inert_of_status (by simp [hstatus])) (by rw [hnext]; rfl)
      (hf _ hstatus) (.inr ⟨rfl, he⟩)

/-! ### After the venue call -/

/-- A flatten under way: its record is stored, in a coordinator whose journal is in order. -/
structure FlattenStored (S : Service) (s : System) (command : FlattenPositionCommand)
    (plan : AuthoritativeFlattenPlan) (dispatch : AuthoritativeFlattenDispatchContext) : Prop where
  identified : command.context.identified = true
  stored : s.requests.lookup dispatch.requestKey = some (pendingFlatten command plan dispatch)
  ordered : Ordered S.config s.journal

/-- Every part of the end of a flatten closes the command in this way. -/
abbrev ClosesFlatten (S : Service) (A : Allowance) (command : FlattenPositionCommand)
    (plan : AuthoritativeFlattenPlan) (dispatch : AuthoritativeFlattenDispatchContext)
    (s s' : System) : Prop :=
  Closes S A dispatch.requestKey (pendingFlatten command plan dispatch)
    (Stems (pendingFlatten command plan dispatch)) (.attempted .flatten) notReconnect
    (fun _ => True) s s'

lemma uncertainFlattenOutcome_closes (h : FlattenStored S s command plan dispatch)
    (hio : Sound A s.journal (io.file 0)) (orderId : Int) (detail : String) :
    ClosesFlatten S A command plan dispatch s
      (s.uncertainFlattenOutcome S command plan dispatch orderId detail io).1 := by
  obtain ⟨hid, hr, ho⟩ := h
  rcases appendOrBlock_cases ho hio (flattenEvent (io.clock 0) command plan dispatch
    .flattenOutcomeUncertain orderId "uncertain" detail "IB_FLATTEN_OUTCOME_UNCERTAIN")
    "OMS_FLATTEN_UNCERTAIN_WRITE_FAILED" with ⟨j', heq, happ⟩ | ⟨j', heq, hf⟩
  · have hs' : (s.uncertainFlattenOutcome S command plan dispatch orderId detail io).1 =
        ((s.setJournal j').putRecord dispatch.requestKey { pendingFlatten command plan dispatch with
          status := .uncertain, orderId := orderId, reasonCode := "IB_FLATTEN_OUTCOME_UNCERTAIN",
          detail := detail }).block recoveryReconcileRequired := by
      simp [uncertainFlattenOutcome, heq, modifyRecord_of_lookup, hr]
    rw [hs']
    refine Closes.settled happ rfl rfl (flattenEvent_belongs hid rfl) rfl
      (show Stage.next (.attempted .flatten) _ = some (.unresolved .flatten) from rfl)
      (fun _ => rfl) ?_ (fun _ => rfl) trivial
    intro folded ht
    exact ht.agrees (flattenEvent_belongs hid rfl) rfl rfl rfl rfl rfl rfl rfl
  · have hs' : (s.uncertainFlattenOutcome S command plan dispatch orderId detail io).1 =
        ((s.setJournal j').block "OMS_FLATTEN_UNCERTAIN_WRITE_FAILED").putRecord dispatch.requestKey
          { pendingFlatten command plan dispatch with
            status := .uncertain, orderId := orderId,
            reasonCode := "OMS_FLATTEN_UNCERTAIN_WRITE_FAILED", detail := detail } := by
      simp [uncertainFlattenOutcome, heq, modifyRecord_of_lookup, hr]
    rw [hs']
    exact Closes.spoiled hf rfl (Inherits.refl _ _) (flattenEvent_belongs hid rfl) rfl
      (inert_of_reasonCode rfl) rfl trivial

lemma applyCommandOwner_flattenSent (ows : UMap Int ExecutionOrderOwner) (tsMs : Int)
    (command : FlattenPositionCommand) (plan : AuthoritativeFlattenPlan)
    (dispatch : AuthoritativeFlattenDispatchContext) (ho : 0 ≤ orderId)
    (st rs riskCode : String) :
    Coordinator.applyCommandOwner ows
        (flattenEvent tsMs command plan dispatch .flattenSent orderId st rs riskCode) =
      ows.insert orderId (orderOwner command.context command.instrument plan.order.action
        dispatch.venueCorrelationId) := by
  simp only [Coordinator.applyCommandOwner, flattenEvent, buildEvent, ho, if_true]
  exact congrArg (ows.insert orderId) (owner_buildEvent)

lemma completeFlatten_closes (h : FlattenStored S s command plan dispatch)
    (hor : 0 ≤ orderId) (hio : ∀ n, Sound A s.journal (io.file n))
    (projection : CheckReply) :
    ClosesFlatten S A command plan dispatch s
      (s.completeFlatten S command plan dispatch orderId projection io).1 := by
  obtain ⟨hid, hr, ho⟩ := h
  let owner := orderOwner command.context command.instrument plan.order.action
    dispatch.venueCorrelationId
  let sent := flattenEvent (io.clock 0) command plan dispatch .flattenSent orderId "submitted"
    dispatch.snapshotEvidence ""
  let failure := fun rs => flattenEvent (io.clock 1) command plan dispatch
    .executionProjectionFailed orderId "flatten_projection_failed" rs
    "AUTHORITATIVE_FLATTEN_PROJECTION_FAILED"
  have hsn : sent.Belongs (pendingFlatten command plan dispatch) :=
    flattenEvent_belongs hid rfl
  have howner := applyCommandOwner_flattenSent s.orderOwners (io.clock 0) command plan dispatch
    hor "submitted" dispatch.snapshotEvidence ""
  rcases hp : (if S.callbacks.onIbOrderPlaced = true then
      projection.eval "unknown flatten projection exception" else (true, "")) with ⟨ok, why⟩
  rcases appendOrBlock_cases (s := s.setOwner orderId owner) ho (hio 0) sent
    "OMS_FLATTEN_RECEIPT_WRITE_FAILED" with ⟨j', heq, happ⟩ | ⟨j', heq, hrf⟩
  · cases ok with
    | true =>
      have hs' : (s.completeFlatten S command plan dispatch orderId projection io).1 =
          ((s.setOwner orderId owner).setJournal j').putRecord dispatch.requestKey
            { pendingFlatten command plan dispatch with
              status := .accepted, orderId := orderId, reasonCode := "", detail := "" } := by
        simp only [owner, sent] at heq
        simp [completeFlatten, hp, heq, modifyRecord_of_lookup, hr, owner]
      rw [hs']
      refine Closes.settled happ rfl howner.symm hsn rfl
        (show Stage.next (.attempted .flatten) _ = some (.sent .flatten) from rfl)
        (inert.fits (inert_of_status (by simp)) _) ?_ (fun h => absurd h.1 (by simp)) trivial
      intro folded ht
      exact ht.agrees hsn rfl rfl rfl rfl rfl rfl rfl
    | false =>
      have hf : (failure why).Belongs (pendingFlatten command plan dispatch) :=
        flattenEvent_belongs hid rfl
      let failed : RequestRecord := { pendingFlatten command plan dispatch with
        status := .uncertain, orderId := orderId,
        reasonCode := "AUTHORITATIVE_FLATTEN_PROJECTION_FAILED", detail := why }
      have hfs : ∀ {s' : System}, Closes S A dispatch.requestKey
          (pendingFlatten command plan dispatch) (Stems (pendingFlatten command plan dispatch))
          (.sent .flatten) notReconnect (fun _ => True)
          ((s.setOwner orderId owner).setJournal j') s' →
          ClosesFlatten S A command plan dispatch s s' := by
        intro s' h
        exact h.cons happ.enters happ.sound rfl howner.symm hsn rfl (fun _ ht => ht.absorb hsn rfl)
      rcases appendOrBlock_cases (s := (s.setOwner orderId owner).setJournal j') happ.ordered
        (happ.next_sound (hio 1)) (failure why) "OMS_EXECUTION_PROJECTION_FAILURE_WRITE_FAILED" with
        ⟨j'', heq', happ'⟩ | ⟨j'', heq', hrf'⟩
      · have hs' : (s.completeFlatten S command plan dispatch orderId projection io).1 =
            ((((s.setOwner orderId owner).setJournal j').setJournal j'').block
              "AUTHORITATIVE_FLATTEN_PROJECTION_FAILED").putRecord dispatch.requestKey failed := by
          simp only [owner, sent, failure] at heq heq'
          simp [completeFlatten, hp, heq, heq', modifyRecord_of_lookup, hr, owner, failed]
        rw [hs']
        refine hfs (Closes.settled happ' rfl rfl hf rfl
          (show Stage.next (.sent .flatten) _ = some (.projectionFailed .flatten) from rfl)
          (inert.fits (inert_of_reasonCode rfl) _) ?_ (fun _ => rfl) trivial)
        intro folded ht
        exact ht.agrees hf rfl rfl ht.operation rfl rfl rfl rfl
      · have hs' : (s.completeFlatten S command plan dispatch orderId projection io).1 =
            ((((s.setOwner orderId owner).setJournal j').setJournal j'').block
              "OMS_EXECUTION_PROJECTION_FAILURE_WRITE_FAILED").putRecord dispatch.requestKey
              failed := by
          simp only [owner, sent, failure] at heq heq'
          simp [completeFlatten, hp, heq, heq', modifyRecord_of_lookup, hr, owner, failed]
        rw [hs']
        exact hfs (Closes.spoiled hrf' rfl (Inherits.refl _ _) hf rfl
          (inert_of_reasonCode rfl) rfl trivial)
  · have hs' : (s.completeFlatten S command plan dispatch orderId projection io).1 =
        (((s.setOwner orderId owner).setJournal j').block
          "OMS_FLATTEN_RECEIPT_WRITE_FAILED").putRecord dispatch.requestKey
          { pendingFlatten command plan dispatch with
            status := .uncertain, orderId := orderId,
            reasonCode := "OMS_FLATTEN_RECEIPT_WRITE_FAILED" } := by
      simp only [owner, sent] at heq
      simp [completeFlatten, heq, modifyRecord_of_lookup, hr, owner]
    rw [hs']
    exact Closes.spoiled hrf rfl (Inherits.insert rfl _ _) hsn rfl
      (inert_of_reasonCode rfl) rfl trivial

lemma settleFlatten_closes (hkey : dispatch.requestKey = command.context.requestKey)
    (h : FlattenStored S s command plan dispatch)
    (hio : ∀ n, Sound A s.journal (io.file n)) (reply : VenueReply VenueFlattenResult)
    (projection : CheckReply) :
    ClosesFlatten S A command plan dispatch s
      (s.settleFlatten S command plan dispatch reply projection io).1 := by
  obtain ⟨hid, hr, ho⟩ := h
  have hu := fun orderId det =>
    uncertainFlattenOutcome_closes (A := A) ⟨hid, hr, ho⟩ (hio 0) orderId det
  cases reply with
  | threw => exact hu ..
  | threwUnknown => exact hu _ _
  | returned outcome =>
    cases hd : outcome.disposition with
    | rejectedBeforeSend =>
      cases hc : outcome.rejection.code with
      | none =>
        simp only [settleFlatten, hd, hc]
        exact hu _ _
      | some =>
        simp only [settleFlatten, hd, hc]
        split_ifs
        · exact hu _ _
        · exact rejectFlatten_closes hkey hid (.inr hr) (.inr (.inr rfl))
            (fun _ h => .inr h) ho (hio 0) rfl (fun _ _ => trivial) _ _ _
    | uncertain =>
      simp only [settleFlatten, hd]
      exact hu _ _
    | submitted =>
      simp only [settleFlatten, hd]
      split_ifs with hor
      · exact hu _ _
      · exact completeFlatten_closes ⟨hid, hr, ho⟩ (not_lt.mp hor) hio _

theorem flattenReturned_move (h : Coherent S s) (hm : .flatten command plan dispatch ∈ s.dispatches)
    (hio : ∀ n, Sound A s.journal (io.file n)) (reply : VenueReply VenueFlattenResult)
    (projection : CheckReply) :
    Move S A s (s.flattenReturned S command plan dispatch reply projection io).1 := by
  obtain ⟨hr, hkey, hid⟩ := h.pending _ hm
  have hc := settleFlatten_closes
    (s := (s.venueReturned (.flatten command plan dispatch)).endRiskMutationDispatch
      dispatch.requestKey) hkey ⟨hid, hr, h.ordered⟩ hio reply projection
  exact .returned hm (hc.of_view rfl (Tracks.of_eq rfl))

/-! ### Before the venue call -/

/-- A flatten that leaves a trace is new, and admitted only when the coordinator is unblocked and
no risk mutation in its scope is at the venue. -/
lemma flattenAdmission_cases (s : System) (command : FlattenPositionCommand)
    (plan : AuthoritativeFlattenPlan) (reps : FlattenReplies) :
    (∃ result, s.flattenAdmission S command plan reps = .refused result) ∨
      (command.context.identified = true ∧ s.requests.lookup command.context.requestKey = none ∧
        (s.flattenAdmission S command plan reps = .admitted → s.mutationBlocked = false ∧
          ¬ s.riskMutationConflicts command.context command.instrument plan.contract)) := by
  cases hr : s.requests.lookup command.context.requestKey with
  | some =>
    left
    simp only [flattenAdmission, hr]
    split_ifs <;> exact ⟨_, rfl⟩
  | none =>
    by_cases hid : command.context.identified = true
    · refine .inr ⟨hid, rfl, fun ha => ?_⟩
      simp only [flattenAdmission, hr] at ha
      split_ifs at ha with _ _ _ hblk hc
      exact ⟨by simpa using hblk, hc⟩
    · left
      simp only [flattenAdmission, hid, Bool.not_false, if_true]
      exact ⟨_, rfl⟩

lemma agrees_flattenIntent (hid : command.context.identified = true) (tsMs : Int) (ev : String) :
    Agrees (pendingFlatten command plan dispatch) (absorb {} (flattenEvent tsMs command plan
      dispatch .flattenIntent (-1) "intent_recorded" ev "")) := by
  have hb : (flattenEvent tsMs command plan dispatch .flattenIntent (-1) "intent_recorded"
      ev "").Belongs (pendingFlatten command plan dispatch) := flattenEvent_belongs hid rfl
  refine ⟨?_, ?_, rfl, rfl, rfl, .inr ⟨rfl, rfl⟩⟩
  · rw [← hb.identity]
    simp [RequestRecord.identity, OmsJournalEvent.identity]
  · simp [pendingFlatten, flattenEvent, buildEvent]

lemma agrees_flattenAttempt (hid : command.context.identified = true) (tsMs : Int) (ev : String)
    {folded : RequestRecord} (h : Agrees (pendingFlatten command plan dispatch) folded) :
    Agrees (pendingFlatten command plan dispatch) (folded.absorb (flattenEvent tsMs command plan
      dispatch .flattenSendAttempt (-1) "attempt_recorded" ev "")) := by
  have hb : (flattenEvent tsMs command plan dispatch .flattenSendAttempt (-1)
      "attempt_recorded" ev "").Belongs (pendingFlatten command plan dispatch) :=
    flattenEvent_belongs hid rfl
  have hs := h.stems.absorb hb rfl
  exact ⟨hs.identity hb.identity, hs.venueCorrelationId.symm, hs.operation.symm,
    rfl, rfl, .inr ⟨rfl, rfl⟩⟩

lemma completeFlattenNoop_closes (hkey : dispatch.requestKey = command.context.requestKey)
    (h : FlattenStored S s command plan dispatch)
    (hf : ∀ record : RequestRecord, final record)
    (hio : Sound A s.journal (io.file 1)) (reply : NoopReply) :
    Closes S A dispatch.requestKey (pendingFlatten command plan dispatch)
      (Stems (pendingFlatten command plan dispatch)) (.intended .flatten) isLasting final s
      (s.completeFlattenNoop S command plan dispatch reply io).1 := by
  obtain ⟨hid, hr, ho⟩ := h
  have hj : ∀ reasonCode detail tsMs, Closes S A dispatch.requestKey
      (pendingFlatten command plan dispatch) (Stems (pendingFlatten command plan dispatch))
      (.intended .flatten) isLasting final s
      (s.rejectFlatten S command plan dispatch reasonCode detail tsMs (io.file 1)).1 :=
    rejectFlatten_closes hkey hid (.inr hr) (.inr (.inl rfl)) (fun _ h => .inr h) ho hio
      rfl (fun record _ => hf record)
  unfold completeFlattenNoop
  split_ifs with hc
  · exact hj _ _ _
  cases reply with
  | withoutCommit =>
    simp only []
    split_ifs <;> exact hj _ _ _
  | commits =>
    let noop := buildEvent (io.clock 1) command.context .flattenNoop (-1) command.instrument ""
      .zero .zero "accepted" dispatch.snapshotEvidence "POSITION_ALREADY_FLAT" dispatch.requestHash
      dispatch.venueCorrelationId
    have hb : noop.Belongs (pendingFlatten command plan dispatch) :=
      ⟨isCommand_buildEvent hid, identity_buildEvent (toolCallId_ne_empty hid), .inl rfl⟩
    simp only []
    rcases appendOrBlock_cases ho hio noop "OMS_FLATTEN_NOOP_WRITE_FAILED" with
      ⟨j', heq, happ⟩ | ⟨j', heq, hrf⟩
    · simp only [noop] at heq
      rw [heq]
      simp only [modifyRecord_of_lookup (s.setJournal j') hr]
      refine Closes.settled happ rfl rfl hb rfl
        (show Stage.next (.intended .flatten) _ = some (.closed .flatten) from rfl)
        (inert.fits (inert_of_status (by simp)) _) ?_ (fun h => absurd h.1 (by simp)) (hf _)
      intro folded hs
      exact hs.agrees hb rfl rfl rfl rfl rfl rfl rfl
    · simp only [noop] at heq
      rw [heq]
      simp only [modifyRecord_of_lookup ((s.setJournal j').block _) hr]
      exact Closes.spoiled hrf rfl (Inherits.refl _ _) hb rfl (inert_of_reasonCode rfl) rfl (hf _)

def flattenIntent (command : FlattenPositionCommand) (plan : AuthoritativeFlattenPlan)
    (dispatch : AuthoritativeFlattenDispatchContext) (io : Io) : OmsJournalEvent :=
  flattenEvent (io.clock 0) command plan dispatch .flattenIntent (-1) "intent_recorded"
    dispatch.snapshotEvidence ""

def flattenAttempt (command : FlattenPositionCommand) (plan : AuthoritativeFlattenPlan)
    (dispatch : AuthoritativeFlattenDispatchContext) (io : Io) : OmsJournalEvent :=
  flattenEvent (io.clock 1) command plan dispatch .flattenSendAttempt (-1) "attempt_recorded"
    dispatch.snapshotEvidence ""

lemma flattenIntended_closes {intended : System}
    (hid : command.context.identified = true)
    (happ : Appended S (flattenIntent command plan dispatch io) s.journal j₁)
    (hv : intended.view =
      ((s.setJournal j₁).putRecord dispatch.requestKey (pendingFlatten command plan dispatch)).view)
    (hi : Tracks dispatch.requestKey s intended)
    (h : Closes S A dispatch.requestKey (pendingFlatten command plan dispatch)
      (Stems (pendingFlatten command plan dispatch)) (.intended .flatten) reasons final intended
      s') :
    Closes S A dispatch.requestKey (pendingFlatten command plan dispatch) (· = {}) .fresh reasons
      final s s' := by
  refine (h.of_putRecord hv hi).cons happ.enters happ.sound rfl rfl
    (flattenEvent_belongs hid rfl) rfl ?_
  rintro folded rfl
  exact (agrees_flattenIntent hid _ _).stems

variable (hkey : dispatch.requestKey = command.context.requestKey)

include hkey

lemma flattenOpened_move (hid : command.context.identified = true)
    (hfr : s.requests.lookup dispatch.requestKey = none)
    (happ : Appended S (flattenIntent command plan dispatch io) s.journal j₁)
    (h : Closes S A dispatch.requestKey (pendingFlatten command plan dispatch)
      (Stems (pendingFlatten command plan dispatch)) (.intended .flatten) isLasting s.Spared
      ((s.setJournal j₁).putRecord dispatch.requestKey (pendingFlatten command plan dispatch)) s') :
    Move S A s s' := by
  have hc := flattenIntended_closes hid happ rfl (Tracks.of_eq rfl) h
  rw [hkey] at hfr hc
  exact @Move.opened S A s s' (pendingFlatten command plan dispatch) hfr hid hc

variable (hid : command.context.identified = true)
  (hfr : s.requests.lookup dispatch.requestKey = none)
  (hfree : dispatch.requestKey ∉ s.placeSendAttemptKeys) (hblk : s.mutationBlocked = false)
  (hsc : ¬ s.riskMutationConflicts command.context command.instrument plan.contract)
  (halw : A.call .flatten)
  (happ : Appended S (flattenIntent command plan dispatch io) s.journal j₁)
  (hio : ∀ n, Sound A j₁ (io.file n))

include hid hfr hfree hblk hsc halw happ hio

lemma sendFlatten_move (reply : CheckReply) :
    Move S A s (((s.setJournal j₁).putRecord dispatch.requestKey
      (pendingFlatten command plan dispatch)).sendFlatten S command plan dispatch reply io).1 := by
  let stored := (s.setJournal j₁).putRecord dispatch.requestKey
    (pendingFlatten command plan dispatch)
  have hl : (flattenAttempt command plan dispatch io).Belongs
      (pendingFlatten command plan dispatch) :=
    flattenEvent_belongs hid rfl
  rcases appendOrBlock_cases (s := stored) happ.ordered (hio 1)
    (flattenAttempt command plan dispatch io) "OMS_FLATTEN_SEND_ATTEMPT_WRITE_FAILED" with
    ⟨j', heq, happ'⟩ | ⟨j', heq, hf⟩
  · let tracked := (stored.setJournal j').trackSendAttempt
      ⟨dispatch.requestKey, command.context.account, command.context.executionDomain, io.clock 1⟩
    have hv : tracked.view = (stored.setJournal j').view := view_trackSendAttempt _ _
    have ht : Tracks dispatch.requestKey (stored.setJournal j') tracked :=
      tracks_trackSendAttempt _ _
    have hsn : (flattenAttempt command plan dispatch io).sendAttempt ∈
        tracked.placeSendAttempts := by
      have ha : (flattenAttempt command plan dispatch io).sendAttempt = ⟨dispatch.requestKey,
          command.context.account, command.context.executionDomain, io.clock 1⟩ := by
        rw [hkey]
        exact congrArg (PlaceSendAttempt.mk · _ _ _) hl.requestKey
      rw [ha]
      exact mem_trackSendAttempt hfree
    rcases hc : (if S.callbacks.preVenueFlattenCheck = true then
        reply.eval "pre-venue flatten check threw" else (true, "")) with ⟨_ | _, answered⟩
    · have hs' : (stored.sendFlatten S command plan dispatch reply io).1 =
          (tracked.rejectFlatten S command plan dispatch
            (if answered = "" then "IB_PAPER_KILL_SWITCH_STATE_UNCERTAIN" else answered)
            "pre-venue flatten safety check rejected broker send" (io.clock 2) (io.file 2)).1 := by
        simp only [flattenAttempt] at heq
        simp only [sendFlatten, heq, hc, Bool.false_eq_true, if_false, tracked]
      rw [hs']
      have hj : tracked.journal = j' := congrArg View.journal hv
      have hrc : tracked.requests.lookup dispatch.requestKey =
          some (pendingFlatten command plan dispatch) := by
        rw [show tracked.requests = stored.requests from congrArg View.requests hv]
        exact lookup_insert _
      have hr : ∀ rc, Closes S A dispatch.requestKey (pendingFlatten command plan
          dispatch) (Stems (pendingFlatten command plan dispatch)) (.attempted .flatten) isLasting
          s.Spared tracked (tracked.rejectFlatten S command plan dispatch rc
            "pre-venue flatten safety check rejected broker send" (io.clock 2) (io.file 2)).1 :=
        fun rc => rejectFlatten_closes hkey hid (.inr hrc) (.inr (.inr rfl))
          (fun _ h => .inr h) (hj ▸ happ'.ordered) (hj ▸ happ'.next_sound (hio 2)) rfl
          (fun _ h _ _ => h) _ _ _
      exact flattenOpened_move hkey hid hfr happ (((hr _).of_view hv ht).cons
        happ'.enters happ'.sound rfl rfl hl rfl (fun _ hst => hst.absorb hl rfl)
        rfl (Tracks.of_eq rfl) (fun _ => ⟨hblk, .inr ((hr _).kept hsn)⟩))
    · have hs' : (stored.sendFlatten S command plan dispatch reply io).1 =
          (tracked.reserve (.flatten command plan dispatch)).callVenue
            (.flatten command plan dispatch) := by
        simp only [flattenAttempt] at heq
        simp only [sendFlatten, heq, hc, if_true, tracked]
        rw [← beginRiskMutationDispatch_flatten]
      rw [hs']
      have hw : Writes S A dispatch.requestKey (pendingFlatten command plan dispatch) (· = {})
          .fresh s [flattenIntent command plan dispatch io, flattenAttempt command plan dispatch io]
          (pendingFlatten command plan dispatch) (stored.setJournal j') :=
        .opening happ.enters happ.sound happ' rfl (inert_of_reasonCode rfl) ⟨rfl, rfl⟩
          ⟨flattenEvent_belongs hid rfl, hl⟩ ⟨rfl, rfl⟩ (fun _ => ⟨rfl, rfl⟩) ⟨rfl, rfl⟩
          (agrees_flattenAttempt hid _ _ (agrees_flattenIntent hid _ _))
      refine Move.of_callVenue hfr ⟨hkey, hid⟩ hw rfl
        (fun hy => ⟨_, happ'.durable hy rfl, rfl, hl⟩) rfl ⟨rfl, rfl⟩
        (fun hb => absurd hb (by simp [hblk])) hsc hv
        ((show Tracks dispatch.requestKey s tracked from ht).indexes (.inr ?_)
          (fun _ _ _ => hblk)) halw
      simp only [List.forall_mem_cons]
      exact ⟨nofun, fun _ => hsn, by simp⟩
  · obtain ⟨record, hr, hi, hstatus, -⟩ :=
      reject_flatten (s := (stored.setJournal j').block "OMS_FLATTEN_SEND_ATTEMPT_WRITE_FAILED") hkey
        hid (.inr (lookup_insert _)) "OMS_FLATTEN_SEND_ATTEMPT_WRITE_FAILED"
        "flatten broker send was not attempted"
    have hs' : (stored.sendFlatten S command plan dispatch reply io).1 =
        ((stored.setJournal j').block "OMS_FLATTEN_SEND_ATTEMPT_WRITE_FAILED").putRecord
          dispatch.requestKey record := by
      simp only [flattenAttempt] at heq
      simp only [sendFlatten, heq, hr]
    rw [hs']
    exact flattenOpened_move hkey hid hfr happ (Closes.spoiled hf rfl (Inherits.refl _ _) hl hi
      (inert_of_status (by simp [hstatus])) rfl (fun _ _ => hstatus)
      (.inr ⟨rfl, rfl⟩) nofun rfl (fun _ => hblk))

lemma dispatchFlatten_move (reps : FlattenReplies) :
    Move S A s (((s.setJournal j₁).putRecord dispatch.requestKey
      (pendingFlatten command plan dispatch)).dispatchFlatten S command plan dispatch reps
        io).1 := by
  let stored := (s.setJournal j₁).putRecord dispatch.requestKey
    (pendingFlatten command plan dispatch)
  have hr : stored.requests.lookup dispatch.requestKey =
      some (pendingFlatten command plan dispatch) := lookup_insert _
  simp only [dispatchFlatten]
  split_ifs
  · exact flattenOpened_move hkey hid hfr happ (completeFlattenNoop_closes hkey
      ⟨hid, hr, happ.ordered⟩ (fun _ hb => absurd hb (by simp [hblk])) (hio 1) _)
  · exact flattenOpened_move hkey hid hfr happ (rejectFlatten_closes hkey hid (.inr hr)
      (.inr (.inl rfl)) (fun _ h => .inr h) happ.ordered (hio 1) rfl (fun _ h _ _ => h) _ _ _)
  · exact sendFlatten_move hkey hid hfr hfree hblk hsc halw happ hio _

omit hkey hid hfr hfree hblk hsc halw happ hio

/-- A flatten up to its venue call. -/
theorem flattenPosition_moves (h : Coherent S s) (halw : A.call .flatten)
    (hio : ∀ n, Sound A s.journal (io.file n)) (reps : FlattenReplies) :
    Moves S A s (s.flattenPosition S command plan reps io).1 := by
  rcases flattenAdmission_cases (S := S) s command plan reps with
    ⟨result, ha⟩ | ⟨hid, hfr, hu⟩
  · simp only [flattenPosition, ha]
    exact .refl
  cases ha : s.flattenAdmission S command plan reps with
  | refused =>
    simp only [flattenPosition, ha]
    exact .refl
  | rejected rc det =>
    simp only [flattenPosition, ha]
    have hc : Closes S A (flattenDispatch S command plan).requestKey
        (pendingFlatten command plan (flattenDispatch S command plan)) (· = {}) .fresh isLasting
        s.Spared s (s.rejectFlatten S command plan (flattenDispatch S command plan) rc
          det (io.clock 0) (io.file 0)).1 :=
      rejectFlatten_closes rfl hid (.inl hfr) (.inl rfl) (fun _ h => .inl h) h.ordered
        (hio 0) rfl (fun _ h _ _ => h) _ _ _
    exact .single (@Move.opened S A s _
      (pendingFlatten command plan (flattenDispatch S command plan)) hfr hid hc)
  | admitted =>
    rcases appendOrBlock_cases h.ordered (hio 0)
      (flattenIntent command plan (flattenDispatch S command plan) io)
      "OMS_FLATTEN_INTENT_WRITE_FAILED" with ⟨j₁, heq, happ⟩ | ⟨j₁, heq, hr⟩
    · simp only [flattenIntent] at heq
      simp only [flattenPosition, ha, heq]
      have hfree : command.context.requestKey ∉ s.placeSendAttemptKeys := fun hm => by
        simpa [hfr] using h.indexed _ hm
      obtain ⟨hblk, hsc⟩ := hu ha
      exact .single (dispatchFlatten_move rfl hid hfr hfree hblk hsc halw happ
        (fun n => happ.next_sound (hio n)) reps)
    · simp only [flattenIntent] at heq
      simp only [flattenPosition, ha, heq]
      rw [reject_of_fresh (s := (s.setJournal j₁).block _) hfr (toolCallId_ne_empty hid)]
      exact .single (@Move.opened S A s _
        (pendingFlatten command plan (flattenDispatch S command plan)) hfr hid
        (Closes.spoiled hr rfl (Inherits.refl _ _) (flattenEvent_belongs hid rfl) rfl
          (inert_of_status (by simp)) rfl (fun _ _ => rfl)))

end System

end Hepta
