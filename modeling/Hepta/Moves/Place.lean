import Hepta.Execution.Move

/-!
# The moves of a placement

Each part of a placement is a stretch of work that closes its command; together they give the
moves of a placement and of the return of its venue call.
-/

namespace Hepta

open OmsJournal RequestRecord Coordinator

namespace System

variable {S : Service} {A : Allowance} {s s' : System} {command : PlaceOrderCommand}
  {dispatch : PlaceOrderDispatchContext} {stage : Stage} {final : RequestRecord → Prop} {io : Io}
  {file : AppendIo} {orderId : Int} {reasons : String → Bool}

lemma placeEvent_belongs {tsMs : Int} {eventType : EventType} {orderId : Int}
    {status reason riskCode : String} (hi : command.context.identified = true)
    (hc : eventType.isCommand = true) :
    (placeEvent tsMs command dispatch eventType orderId status reason riskCode).Belongs
      (pendingPlace command dispatch) :=
  ⟨(isCommand_buildEvent hi).trans hc, identity_buildEvent (toolCallId_ne_empty hi), .inl rfl⟩

/-- A placement under way: its record is stored, in a coordinator whose journal is in order. -/
structure PlaceStored (S : Service) (s : System) (command : PlaceOrderCommand)
    (dispatch : PlaceOrderDispatchContext) : Prop where
  identified : command.context.identified = true
  stored : s.requests.lookup dispatch.requestKey = some (pendingPlace command dispatch)
  ordered : Ordered S.config s.journal

/-- Every part of the end of a placement closes the command in this way. -/
abbrev ClosesPlace (S : Service) (A : Allowance) (command : PlaceOrderCommand)
    (dispatch : PlaceOrderDispatchContext) (stage : Stage) (s s' : System) : Prop :=
  Closes S A dispatch.requestKey (pendingPlace command dispatch)
    (Stems (pendingPlace command dispatch)) stage notReconnect (fun _ => True) s s'

lemma uncertainPlaceOutcome_closes (h : PlaceStored S s command dispatch)
    (hio : Sound A s.journal file) (ht : stage = .attempted .place ∨ stage = .reserved)
    (orderId : Int) (detail : String) (tsMs : Int) :
    ClosesPlace S A command dispatch stage s
      (s.uncertainPlaceOutcome S command dispatch orderId detail tsMs file).1 := by
  obtain ⟨hi, hr, ho⟩ := h
  have hx : stage.next (placeEvent tsMs command dispatch .placeOutcomeUncertain orderId
      "uncertain" detail "IB_PLACE_OUTCOME_UNCERTAIN") = some (.unresolved .place) := by
    rcases ht with rfl | rfl <;> rfl
  rcases appendOrBlock_cases ho hio (placeEvent tsMs command dispatch .placeOutcomeUncertain orderId
    "uncertain" detail "IB_PLACE_OUTCOME_UNCERTAIN") "OMS_PLACE_UNCERTAIN_WRITE_FAILED" with
    ⟨j', heq, ha⟩ | ⟨j', heq, hf⟩
  · have hs' : (s.uncertainPlaceOutcome S command dispatch orderId detail tsMs file).1 =
        ((s.setJournal j').putRecord dispatch.requestKey { pendingPlace command dispatch with
          status := .uncertain, orderId := orderId, reasonCode := "IB_PLACE_OUTCOME_UNCERTAIN",
          detail := detail }).block recoveryReconcileRequired := by
      simp [uncertainPlaceOutcome, heq, modifyRecord_of_lookup, hr]
    rw [hs']
    refine Closes.settled ha rfl rfl (placeEvent_belongs hi rfl) rfl hx (fun _ => rfl) ?_
      (fun _ => rfl) trivial
    intro folded hm
    exact hm.agrees (placeEvent_belongs hi rfl) rfl rfl rfl rfl rfl rfl rfl
  · have hs' : (s.uncertainPlaceOutcome S command dispatch orderId detail tsMs file).1 =
        ((s.setJournal j').block "OMS_PLACE_UNCERTAIN_WRITE_FAILED").putRecord dispatch.requestKey
          { pendingPlace command dispatch with
            status := .uncertain, orderId := orderId,
            reasonCode := "OMS_PLACE_UNCERTAIN_WRITE_FAILED", detail := detail } := by
      simp [uncertainPlaceOutcome, heq, modifyRecord_of_lookup, hr]
    rw [hs']
    exact Closes.spoiled hf rfl (Inherits.refl _ _) (placeEvent_belongs hi rfl) rfl
      (inert_of_reasonCode rfl) (by rw [hx]; rfl) trivial

@[simp] lemma owner_placeEvent (command : PlaceOrderCommand) (dispatch : PlaceOrderDispatchContext)
    (tsMs : Int) (eventType : EventType) (orderId : Int) (status reason riskCode : String) :
    (placeEvent tsMs command dispatch eventType orderId status reason riskCode).owner =
      placeOwner command dispatch :=
  owner_buildEvent

def acceptedPlace (command : PlaceOrderCommand) (dispatch : PlaceOrderDispatchContext)
    (orderId : Int) : RequestRecord :=
  { pendingPlace command dispatch with
    status := .accepted, orderId := orderId, reasonCode := "", detail := "" }

lemma activatePlace_closes (h : PlaceStored S s command dispatch)
    (hac : S.requiresActivation = true) (hor : 0 ≤ orderId)
    (hw : s.orderOwners.lookup orderId = some (placeOwner command dispatch))
    (hio : ∀ n, Sound A s.journal (io.file n)) (atv : CheckReply) :
    ClosesPlace S A command dispatch .reserved s
      (s.activatePlace S command dispatch orderId atv io).1 := by
  obtain ⟨hi, hrc, ho⟩ := h
  rcases ha : atv.eval "unknown venue activation exception" with ⟨_ | _, _⟩
  · simp only [activatePlace, hac, ha, Bool.not_true, Bool.false_eq_true, if_false,
      Bool.not_false, if_true]
    exact uncertainPlaceOutcome_closes ⟨hi, hrc, ho⟩ (hio 1) (.inr rfl) _ _ _
  rcases appendOrBlock_cases ho (hio 1) (placeEvent (io.clock 1) command dispatch .placeActivated
    orderId "submitted" "" "") "OMS_PLACE_ACTIVATION_RECEIPT_WRITE_FAILED" with
    ⟨j', heq, hap⟩ | ⟨j', heq, hr⟩
  · have hs' : (s.activatePlace S command dispatch orderId atv io).1 =
        (s.setJournal j').putRecord dispatch.requestKey
          (acceptedPlace command dispatch orderId) := by
      simp [activatePlace, hac, ha, heq, modifyRecord_of_lookup, hrc, acceptedPlace]
    rw [hs']
    refine Closes.settled hap rfl ?_ (placeEvent_belongs hi rfl) rfl
      (show Stage.next .reserved _ = some (.sent .place) from rfl)
      (inert.fits (inert_of_status (by simp [acceptedPlace])) _) ?_
      (fun h => absurd h.1 (by simp [acceptedPlace])) trivial
    · -- the receipt names the owner that is already there
      simp only [applyCommandOwner, placeEvent, buildEvent, hor, if_true]
      exact (UMap.insert_lookup (hw.trans (congrArg some
        (owner_placeEvent command dispatch _ _ _ _ _ _).symm))).symm
    · intro folded ht
      exact ht.agrees (placeEvent_belongs hi rfl) rfl rfl rfl rfl rfl rfl rfl
  · have hs' : (s.activatePlace S command dispatch orderId atv io).1 =
        (((s.setJournal j').block "OMS_PLACE_ACTIVATION_RECEIPT_WRITE_FAILED").uncertainPlaceOutcome
          S command dispatch orderId "venue activated without a durable activation receipt"
          (io.clock 2) (io.file 2)).1 := by
      simp [activatePlace, hac, ha, heq]
    rw [hs']
    rcases hr.spoils with hq | ⟨he, hps⟩
    · have hso : Sound A j' (io.file 2) := .inl hr.fault
      have hc := uncertainPlaceOutcome_closes (S := S) (s := (s.setJournal j').block
        "OMS_PLACE_ACTIVATION_RECEIPT_WRITE_FAILED") ⟨hi, hrc, hr.ordered⟩ hso (.inr rfl)
        orderId "venue activated without a durable activation receipt" (io.clock 2)
      exact hc.quiet hq (fun hp => hr.poisoned hp ▸ hp) hr.fault rfl rfl ⟨rfl, rfl⟩
        (.inr ⟨rfl, rfl⟩)
    · -- the receipt is in the file and the writer takes nothing more
      have hs' : (((s.setJournal j').block
          "OMS_PLACE_ACTIVATION_RECEIPT_WRITE_FAILED").uncertainPlaceOutcome S command dispatch
          orderId "venue activated without a durable activation receipt" (io.clock 2)
          (io.file 2)).1 =
          ((s.setJournal j').block "OMS_PLACE_UNCERTAIN_WRITE_FAILED").putRecord
            dispatch.requestKey { pendingPlace command dispatch with
              status := .uncertain, orderId := orderId,
              reasonCode := "OMS_PLACE_UNCERTAIN_WRITE_FAILED",
              detail := "venue activated without a durable activation receipt" } := by
        simp [uncertainPlaceOutcome, appendOrBlock, append, block, setJournal, hps,
          modifyRecord, hrc]
      rw [hs']
      exact Closes.spoiled hr rfl (Inherits.refl _ _) (placeEvent_belongs hi rfl) rfl
        (inert_of_reasonCode rfl) rfl trivial

lemma placeProjectionFailure_closes (h : PlaceStored S s command dispatch)
    (hio : Sound A s.journal file) (orderId : Int) (rs : String) (tsMs : Int) :
    ClosesPlace S A command dispatch (.sent .place) s
      (s.placeProjectionFailure S command dispatch orderId rs tsMs file).1 := by
  obtain ⟨hi, hr, ho⟩ := h
  rcases appendOrBlock_cases ho hio (placeEvent tsMs command dispatch .executionProjectionFailed
    orderId "place_projection_failed" rs "AUTHORITATIVE_ORDER_PROJECTION_FAILED")
    "OMS_EXECUTION_PROJECTION_FAILURE_WRITE_FAILED" with ⟨j', heq, ha⟩ | ⟨j', heq, hf⟩
  · have hs' : (s.placeProjectionFailure S command dispatch orderId rs tsMs file).1 =
        ((s.setJournal j').block "AUTHORITATIVE_ORDER_PROJECTION_FAILED").putRecord
          dispatch.requestKey { pendingPlace command dispatch with
            status := .uncertain, orderId := orderId,
            reasonCode := "AUTHORITATIVE_ORDER_PROJECTION_FAILED", detail := rs } := by
      simp [placeProjectionFailure, heq, modifyRecord_of_lookup, hr]
    rw [hs']
    refine Closes.settled ha rfl rfl (placeEvent_belongs hi rfl) rfl
      (show Stage.next (.sent .place) _ = some (.projectionFailed .place) from rfl)
      (inert.fits (inert_of_reasonCode rfl) _) ?_ (fun _ => rfl) trivial
    intro folded ht
    exact ht.agrees (placeEvent_belongs hi rfl) rfl rfl ht.operation rfl rfl rfl rfl
  · have hs' : (s.placeProjectionFailure S command dispatch orderId rs tsMs file).1 =
        ((s.setJournal j').block "OMS_EXECUTION_PROJECTION_FAILURE_WRITE_FAILED").putRecord
          dispatch.requestKey { pendingPlace command dispatch with
            status := .uncertain, orderId := orderId,
            reasonCode := "AUTHORITATIVE_ORDER_PROJECTION_FAILED", detail := rs } := by
      simp [placeProjectionFailure, heq, modifyRecord_of_lookup, hr]
    rw [hs']
    exact Closes.spoiled hf rfl (Inherits.refl _ _) (placeEvent_belongs hi rfl) rfl
      (inert_of_reasonCode rfl) rfl trivial

lemma applyCommandOwner_placeReceipt (S : Service) (ows : UMap Int ExecutionOrderOwner)
    (tsMs : Int) (command : PlaceOrderCommand) (dispatch : PlaceOrderDispatchContext)
    (ho : 0 ≤ orderId) :
    applyCommandOwner ows (placeReceipt S tsMs command dispatch orderId) =
      ows.insert orderId (placeOwner command dispatch) := by
  simp only [applyCommandOwner, placeReceipt, placeEvent, buildEvent, ho, if_true]
  exact congrArg (ows.insert orderId) (owner_placeEvent command dispatch _ _ _ _ _ _)

/-- The first receipt of a placement that needs an activation leaves the outcome open. -/
lemma next_placeReceipt (S : Service) (tsMs : Int) (command : PlaceOrderCommand)
    (dispatch : PlaceOrderDispatchContext) (orderId : Int) :
    Stage.next (.attempted .place) (placeReceipt S tsMs command dispatch orderId) =
      if S.requiresActivation then some .reserved else some (.sent .place) := by
  cases h : S.requiresActivation <;>
    simp [Stage.next, Stage.resolvedBy, Stage.outcome, placeReceipt, placeEvent, buildEvent, h]

lemma completePlaceOrder_closes (h : PlaceStored S s command dispatch)
    (hor : 0 ≤ orderId) (hi : ∀ n, Sound A s.journal (io.file n))
    (cmp : PlaceCompletion) :
    ClosesPlace S A command dispatch (.attempted .place) s
      (s.completePlaceOrder S command dispatch orderId cmp io).1 := by
  obtain ⟨hd, hr, ho⟩ := h
  have hb : (placeReceipt S (io.clock 0) command dispatch orderId).Belongs
      (pendingPlace command dispatch) :=
    placeEvent_belongs hd rfl
  have hnext := next_placeReceipt S (io.clock 0) command dispatch orderId
  rcases hp : (if S.callbacks.onIbOrderPlaced = true then
      cmp.projection.eval "unknown order projection exception" else (true, "")) with ⟨ok, why⟩
  rcases appendOrBlock_cases (s := s.setOwner orderId (placeOwner command dispatch)) ho (hi 0)
    (placeReceipt S (io.clock 0) command dispatch orderId) "OMS_PLACE_RECEIPT_WRITE_FAILED" with
    ⟨j', heq, hap⟩ | ⟨j', heq, hf⟩
  · have ho' : Ordered S.config j' := hap.ordered
    have hi' : ∀ n, Sound A j' (io.file n) := fun n => hap.next_sound (hi n)
    have howner := applyCommandOwner_placeReceipt S s.orderOwners (io.clock 0) command dispatch hor
    cases ha : S.requiresActivation with
    | true =>
      -- the receipt leaves the outcome open
      have hrs : ∀ {s' : System}, ClosesPlace S A command dispatch .reserved
          ((s.setOwner orderId (placeOwner command dispatch)).setJournal j') s' →
          ClosesPlace S A command dispatch (.attempted .place) s s' := by
        intro s' h
        refine h.cons hap.enters hap.sound rfl howner.symm hb
          (by rw [hnext, ha]; rfl) ?_
        intro folded ht
        refine ht.absorb hb ?_
        simp [absorb, applyCommandState, placeReceipt, placeEvent, buildEvent, ha, pendingPlace]
      cases ok with
      | true =>
        simp only [completePlaceOrder, hp, heq, if_true]
        exact hrs (activatePlace_closes
          (s := (s.setOwner orderId (placeOwner command dispatch)).setJournal j') ⟨hd, hr, ho'⟩
          ha hor (Finmap.lookup_insert _) hi' _)
      | false =>
        simp only [completePlaceOrder, hp, heq, ha, Bool.false_eq_true, if_false, if_true]
        exact hrs (uncertainPlaceOutcome_closes
          (s := (s.setOwner orderId (placeOwner command dispatch)).setJournal j') ⟨hd, hr, ho'⟩
          (hi' 1) (.inr rfl) _ _ _)
    | false =>
      cases ok with
      | true =>
        have hs' : (s.completePlaceOrder S command dispatch orderId cmp io).1 =
            ((s.setOwner orderId (placeOwner command dispatch)).setJournal j').putRecord
              dispatch.requestKey (acceptedPlace command dispatch orderId) := by
          simp [completePlaceOrder, hp, heq, activatePlace, ha, modifyRecord_of_lookup, hr,
            acceptedPlace]
        rw [hs']
        refine Closes.settled hap rfl howner.symm hb rfl
          (by rw [hnext, ha]; rfl) (inert.fits (inert_of_status (by simp [acceptedPlace])) _) ?_
          (fun h => absurd h.1 (by simp [acceptedPlace])) trivial
        intro folded ht
        refine ht.agrees hb rfl rfl ?_ rfl rfl ?_ ?_ <;>
          simp [absorb, applyCommandState, placeReceipt, placeEvent, buildEvent, ha, pendingPlace,
            acceptedPlace]
      | false =>
        simp only [completePlaceOrder, hp, heq, ha, Bool.false_eq_true, if_false]
        refine (placeProjectionFailure_closes
          (s := (s.setOwner orderId (placeOwner command dispatch)).setJournal j') ⟨hd, hr, ho'⟩
          (hi' 1) orderId why (io.clock 1)).cons hap.enters hap.sound rfl howner.symm hb
          (by rw [hnext, ha]; rfl) ?_
        intro folded ht
        refine ht.absorb hb ?_
        simp [absorb, applyCommandState, placeReceipt, placeEvent, buildEvent, ha, pendingPlace]
  · have hs' : (s.completePlaceOrder S command dispatch orderId cmp io).1 =
        (((s.setOwner orderId (placeOwner command dispatch)).setJournal j').block
          "OMS_PLACE_RECEIPT_WRITE_FAILED").putRecord dispatch.requestKey
          { pendingPlace command dispatch with
            status := .uncertain, orderId := orderId,
            reasonCode := "OMS_PLACE_RECEIPT_WRITE_FAILED" } := by
      simp [completePlaceOrder, heq, modifyRecord_of_lookup, hr]
    rw [hs']
    refine Closes.spoiled hf rfl (Inherits.insert rfl _ _) hb rfl
      (inert_of_reasonCode rfl) ?_ trivial
    rw [hnext]
    cases S.requiresActivation <;> rfl

lemma rejectPlace_closes (hk : dispatch.requestKey = command.context.requestKey)
    (h : PlaceStored S s command dispatch) (hio : Sound A s.journal file)
    (hrs : reasons "OMS_REJECT_WRITE_FAILED" = true)
    (hf : ∀ record, record.status = .rejected → final record)
    (orderId : Int) (reasonCode detail : String) (tsMs : Int) :
    Closes S A dispatch.requestKey (pendingPlace command dispatch)
      (Stems (pendingPlace command dispatch)) (.attempted .place) reasons final s
      ((s.appendOrBlock S (placeEvent tsMs command dispatch .reject orderId "rejected" detail
        reasonCode) "OMS_REJECT_WRITE_FAILED" file).2.reject command.context reasonCode detail
        orderId dispatch.requestHash).1 := by
  obtain ⟨hi, hc, ho⟩ := h
  have hr : ∀ s' : System, s'.requests = s.requests →
      (s'.reject command.context reasonCode detail orderId dispatch.requestHash).1 =
        s'.putRecord dispatch.requestKey { pendingPlace command dispatch with
          status := .rejected, orderId := orderId, reasonCode := reasonCode, detail := detail } := by
    intro s' hs'
    rw [hk]
    exact reject_of_lookup (by rw [hs', ← hk, hc]) (toolCallId_ne_empty hi) rfl
      (agentId_ne_empty hi) _ _ _
  rcases appendOrBlock_cases ho hio (placeEvent tsMs command dispatch .reject orderId "rejected"
    detail reasonCode) "OMS_REJECT_WRITE_FAILED" with ⟨j', heq, ha⟩ | ⟨j', heq, hrf⟩
  · simp only [heq]
    rw [hr (s.setJournal j') rfl]
    refine Closes.settled ha rfl rfl (placeEvent_belongs hi rfl) rfl
      (show Stage.next (.attempted .place) _ = some (.closed .place) from rfl)
      (inert.fits (inert_of_status (by simp)) _) ?_ (fun h => absurd h.1 (by simp))
      (hf _ rfl)
    intro folded ht
    refine ht.agrees (placeEvent_belongs hi rfl) rfl rfl ?_ rfl rfl rfl rfl
    have hp : folded.operation = .place := ht.operation
    simp [absorb, hydrate, applyCommandState, placeEvent, buildEvent, hp, pendingPlace]
  · simp only [heq]
    rw [hr ((s.setJournal j').block "OMS_REJECT_WRITE_FAILED") rfl]
    exact Closes.spoiled hrf rfl (Inherits.refl _ _) (placeEvent_belongs hi rfl) rfl
      (inert_of_status (by simp)) rfl (hf _ rfl) (.inr ⟨rfl, hrs⟩)

lemma settlePlace_closes (hk : dispatch.requestKey = command.context.requestKey)
    (h : PlaceStored S s command dispatch) (hio : ∀ n, Sound A s.journal (io.file n))
    (outcome : VenuePlaceResult) (cmp : PlaceCompletion) :
    ClosesPlace S A command dispatch (.attempted .place) s
      (s.settlePlace S command dispatch outcome cmp io).1 := by
  obtain ⟨hi, hr, ho⟩ := h
  have hu := fun det => uncertainPlaceOutcome_closes ⟨hi, hr, ho⟩ (hio 0) (.inl rfl)
    outcome.orderId det (io.clock 0)
  cases hd : outcome.disposition with
  | uncertain =>
    simp only [settlePlace, hd]
    exact hu _
  | rejected =>
    cases hc : outcome.rejection.code with
    | none =>
      simp only [settlePlace, hd, hc]
      exact hu _
    | some =>
      simp only [settlePlace, hd, hc]
      exact rejectPlace_closes hk ⟨hi, hr, ho⟩ (hio 0) rfl (fun _ _ => trivial) _ _ _ _
  | submitted | reserved =>
    simp only [settlePlace, hd]
    split_ifs with hor
    · exact hu _
    · exact completePlaceOrder_closes ⟨hi, hr, ho⟩ (not_lt.mp hor) hio _

theorem placeReturned_move (h : Coherent S s) (hm : .place command dispatch ∈ s.dispatches)
    (ho : ∀ n, Sound A s.journal (io.file n)) (reply : VenueReply VenuePlaceResult)
    (cmp : PlaceCompletion) : Move S A s (s.placeReturned S command dispatch reply cmp io).1 := by
  obtain ⟨hr, hk, hi⟩ := h.pending _ hm
  have hc := settlePlace_closes
    (s := (s.venueReturned (.place command dispatch)).endRiskMutationDispatch dispatch.requestKey)
    hk ⟨hi, hr, h.ordered⟩ ho (placeOutcome S reply) cmp
  exact .returned hm (hc.of_view rfl (Tracks.of_eq rfl))

/-! ### Before the venue call -/

/-- A placement that passes the checks is new and finds the coordinator unblocked, with no risk
mutation at the venue. -/
lemma placeRefusal_none {lim : Option EntrySendAttemptLimit} {reps : PlaceReplies}
    (h : s.placeRefusal S command lim reps = none) :
    command.context.identified = true ∧ s.requests.lookup command.context.requestKey = none ∧
      s.mutationBlocked = false ∧ s.riskMutationDispatches = ∅ := by
  have ha := firstRefusal_eq_none.mp h
  simp only [List.forall_mem_cons, ite_eq_right_iff, reduceCtorEq, imp_false,
    Option.map_eq_none_iff] at ha
  obtain ⟨hi, -, hf, -, -, -, hb, hr, -⟩ := ha
  exact ⟨by simpa using hi, hf, by simpa using hb, by simpa using hr⟩

/-- The two records that open a placement. -/
def placeOpening (command : PlaceOrderCommand) (dispatch : PlaceOrderDispatchContext) (io : Io) :
    OmsJournalEvent × OmsJournalEvent :=
  (placeEvent (io.clock 0) command dispatch .orderIntent (-1) "intent_recorded" "" "",
    placeEvent (io.clock 1) command dispatch .placeSendAttempt (-1) "attempt_recorded" "" "")

/-- Recovery folds the intent of a placement into the record that memory holds. -/
lemma stems_placeIntent (command : PlaceOrderCommand) (dispatch : PlaceOrderDispatchContext)
    (io : Io) :
    Stems (pendingPlace command dispatch)
      (absorb {} (placeOpening command dispatch io).1) := by
  refine ⟨?_, ?_, ?_⟩ <;>
    simp [absorb, hydrate, applyCommandState, placeOpening, placeEvent, buildEvent, pendingPlace]

lemma stems_placeAttempt (hi : command.context.identified = true) (io : Io)
    {folded : RequestRecord} (h : Stems (pendingPlace command dispatch) folded) :
    Stems (pendingPlace command dispatch) (folded.absorb (placeOpening command dispatch io).2) :=
  h.absorb (placeEvent_belongs hi rfl) h.operation

lemma agrees_placeOpening (hi : command.context.identified = true) (io : Io) :
    Agrees (pendingPlace command dispatch)
      ((absorb {} (placeOpening command dispatch io).1).absorb
        (placeOpening command dispatch io).2) := by
  have hs := stems_placeAttempt hi io (stems_placeIntent command dispatch io)
  have hb : (placeOpening command dispatch io).2.Belongs (pendingPlace command dispatch) :=
    placeEvent_belongs hi rfl
  exact ⟨hs.identity hb.identity, hs.venueCorrelationId.symm, hs.operation.symm,
    rfl, rfl, .inr ⟨rfl, rfl⟩⟩

lemma placeOpened_closes
    {j₁ j' : OmsJournal} (hi : command.context.identified = true)
    (hf : Enters S.config (placeOpening command dispatch io).1 s.journal j₁)
    (ho : s.journal.writePoisoned = false)
    (hs : Appended S (placeOpening command dispatch io).2 j₁ j')
    (h : Closes S A dispatch.requestKey (pendingPlace command dispatch)
      (Stems (pendingPlace command dispatch)) (.attempted .place) reasons final (s.setJournal j')
      s')
    (hb : s.mutationBlocked = false)
    (hsn : (placeOpening command dispatch io).2.sendAttempt ∈ s'.placeSendAttempts) :
    Closes S A dispatch.requestKey (pendingPlace command dispatch) (· = {}) .fresh reasons final s
      s' := by
  have ha : Closes S A dispatch.requestKey (pendingPlace command dispatch)
      (Stems (pendingPlace command dispatch)) (.intended .place) reasons final (s.setJournal j₁)
      s' :=
    h.cons hs.enters hs.sound rfl rfl
      (placeEvent_belongs hi rfl) rfl
      (fun _ => stems_placeAttempt hi io) rfl (Tracks.of_eq rfl)
      (fun _ => ⟨hb, .inr hsn⟩)
  refine ha.cons hf ho rfl rfl (placeEvent_belongs hi rfl) rfl ?_
  rintro folded rfl
  exact stems_placeIntent command dispatch io

/-- The pair that opens a placement, up to the venue call. -/
lemma placeOpened_writes {j₁ j' : OmsJournal} (hi : command.context.identified = true)
    (hf : Enters S.config (placeOpening command dispatch io).1 s.journal j₁)
    (ho : s.journal.writePoisoned = false)
    (hs : Appended S (placeOpening command dispatch io).2 j₁ j') :
    Writes S A dispatch.requestKey (pendingPlace command dispatch) (· = {}) .fresh s
      [(placeOpening command dispatch io).1, (placeOpening command dispatch io).2]
      (pendingPlace command dispatch)
      ((s.setJournal j').putRecord dispatch.requestKey (pendingPlace command dispatch)) :=
  .opening hf ho hs rfl (inert_of_reasonCode rfl) ⟨rfl, rfl⟩
    ⟨placeEvent_belongs hi rfl, placeEvent_belongs hi rfl⟩ ⟨rfl, rfl⟩ (fun _ => ⟨rfl, rfl⟩)
    ⟨rfl, rfl⟩ (agrees_placeOpening hi io)

/-- The record of a placement whose opening pair did not get through. -/
def unopenedPlace (command : PlaceOrderCommand) (dispatch : PlaceOrderDispatchContext)
    (failure : String) : RequestRecord :=
  { status := .rejected, reasonCode := failure, detail := "broker send was not attempted",
    requestHash := dispatch.requestHash, context := command.context }

lemma unopenedPlace_closes {j' : OmsJournal} (hd : command.context.identified = true)
    {flr : String} (hl : isLasting flr = true) (hb : s.mutationBlocked = false)
    (hr : Refused S A (placeOpening command dispatch io).1 s.journal j' ∨
      ∃ j₁, Enters S.config (placeOpening command dispatch io).1 s.journal j₁ ∧
        s.journal.writePoisoned = false ∧ Refused S A (placeOpening command dispatch io).2 j₁ j')
    (hf : final (unopenedPlace command dispatch flr)) :
    Closes S A dispatch.requestKey (pendingPlace command dispatch) (· = {}) .fresh isLasting final s
      (((s.setJournal j').block flr).putRecord dispatch.requestKey
        (unopenedPlace command dispatch flr)) := by
  have hi : (unopenedPlace command dispatch flr).inert :=
    inert_of_status (by simp [unopenedPlace])
  rcases hr with hr | ⟨j₁, hfs, hs, hr⟩
  · exact Closes.spoiled hr rfl (Inherits.refl _ _)
      (placeEvent_belongs hd rfl) rfl hi rfl
      hf (.inr ⟨rfl, hl⟩)
  · have ha : Closes S A dispatch.requestKey (pendingPlace command dispatch)
        (fun _ => True) (.intended .place) isLasting final (s.setJournal j₁)
        (((s.setJournal j').block flr).putRecord dispatch.requestKey
          (unopenedPlace command dispatch flr)) :=
      Closes.spoiled hr rfl (Inherits.refl _ _)
        (placeEvent_belongs hd rfl) rfl hi rfl
        hf (.inr ⟨rfl, hl⟩) nofun rfl (fun _ => hb)
    exact ha.cons hfs hs rfl rfl (placeEvent_belongs hd rfl) rfl (fun _ _ => trivial)

lemma preVenuePlace_closes (hk : dispatch.requestKey = command.context.requestKey)
    (h : PlaceStored S s command dispatch) (hio : Sound A s.journal (io.file 2))
    (hf : ∀ record, record.status = .rejected → final record)
    {reply : CheckReply} {rj : ExecutionCommandResult}
    (hp : s.preVenuePlace S command dispatch reply io = some (s', rj)) :
    Closes S A dispatch.requestKey (pendingPlace command dispatch)
      (Stems (pendingPlace command dispatch)) (.attempted .place) isLasting final s s' := by
  obtain ⟨hi, hrc, ho⟩ := h
  unfold preVenuePlace at hp
  split_ifs at hp with hc
  rcases hr : reply.eval "pre-venue place check threw" with ⟨_ | _, _⟩
  · simp only [hr, Bool.false_eq_true, if_false, Option.some.injEq] at hp
    obtain rfl : _ = s' := congrArg Prod.fst hp
    exact rejectPlace_closes hk ⟨hi, hrc, ho⟩ hio rfl hf _ _ _ _
  · simp [hr] at hp

/-- From the stored record of an opened placement to its rejection or its venue call. -/
lemma dispatchPlace_move {j₁ j' : OmsJournal}
    (hk : dispatch.requestKey = command.context.requestKey)
    (hi : command.context.identified = true)
    (hfr : s.requests.lookup dispatch.requestKey = none)
    (hfe : dispatch.requestKey ∉ s.placeSendAttemptKeys) (hb : s.mutationBlocked = false)
    (hrs : s.riskMutationDispatches = ∅) (hl : dispatch.sendAttemptTsMs = io.clock 1)
    (hf : Enters S.config (placeOpening command dispatch io).1 s.journal j₁)
    (hso : s.journal.writePoisoned = false)
    (hsn : Appended S (placeOpening command dispatch io).2 j₁ j')
    (hd : (placeOpening command dispatch io).2 ∈ j'.synced) (hio : Sound A j' (io.file 2))
    (ha : A.call .place) (reply : CheckReply) :
    Move S A s (((s.setJournal j').putRecord dispatch.requestKey (pendingPlace command dispatch))
      |>.dispatchPlace S command dispatch reply io).1 := by
  let opened := (s.setJournal j').putRecord dispatch.requestKey (pendingPlace command dispatch)
  let tracked := opened.trackSendAttempt ⟨dispatch.requestKey, command.context.account,
    command.context.executionDomain, dispatch.sendAttemptTsMs⟩
  have hv : tracked.view = opened.view := view_trackSendAttempt _ _
  have he : (placeOpening command dispatch io).2.sendAttempt ∈ tracked.placeSendAttempts := by
    have hat : (placeOpening command dispatch io).2.sendAttempt = ⟨dispatch.requestKey,
        command.context.account, command.context.executionDomain, dispatch.sendAttemptTsMs⟩ := by
      rw [hl, hk]
      exact congrArg (PlaceSendAttempt.mk · _ _ _) (placeEvent_belongs hi rfl).requestKey
    rw [hat]
    exact mem_trackSendAttempt hfe
  have ht : Tracks dispatch.requestKey s tracked := tracks_trackSendAttempt opened _
  have hj : tracked.journal = j' := congrArg View.journal hv
  have hr : tracked.requests.lookup dispatch.requestKey = some (pendingPlace command dispatch) := by
    rw [show tracked.requests = opened.requests from congrArg View.requests hv]
    exact Finmap.lookup_insert _
  cases hp : tracked.preVenuePlace S command dispatch reply io with
  | none =>
    have hs' : (opened.dispatchPlace S command dispatch reply io).1 =
        (tracked.reserve (.place command dispatch)).callVenue (.place command dispatch) := by
      simp only [dispatchPlace]
      rw [hp, ← beginRiskMutationDispatch_place]
    rw [hs']
    refine Move.of_callVenue hfr ⟨hk, hi⟩ (placeOpened_writes hi hf hso hsn) rfl
      (fun _ => ⟨_, hd, rfl, placeEvent_belongs hi rfl⟩) rfl
      ⟨rfl, rfl⟩ (fun h => absurd h (by simp [hb])) hrs hv
      (ht.indexes (.inr ?_) (fun _ _ _ => hb)) ha
    simp only [List.forall_mem_cons]
    exact ⟨nofun, fun _ => he, by simp⟩
  | some rj =>
    have hs' : (opened.dispatchPlace S command dispatch reply io).1 = rj.1 := by
      simp only [dispatchPlace]
      rw [hp]
    rw [hs']
    have hc : Closes S A dispatch.requestKey (pendingPlace command dispatch)
        (Stems (pendingPlace command dispatch)) (.attempted .place) isLasting
        s.Spared
        tracked rj.1 :=
      preVenuePlace_closes hk ⟨hi, hr, hj ▸ hsn.ordered⟩ (hj ▸ hio) (fun _ h _ _ => h) hp
    have ho := placeOpened_closes hi hf hso hsn (hc.of_putRecord hv ht) hb (hc.kept he)
    rw [hk] at hfr ho
    exact @Move.opened S A s _ (pendingPlace command dispatch) hfr hi ho

/-- A placement up to its venue call. -/
theorem placeOrder_move (h : Coherent S s) (ha : A.call .place)
    (hi : ∀ n, Sound A s.journal (io.file n)) (lim : Option EntrySendAttemptLimit)
    (reps : PlaceReplies) :
    Relation.ReflGen (Move S A) s (s.placeOrder S command lim reps io).1 := by
  cases hr : s.placeRefusal S command lim reps with
  | some =>
    simp only [placeOrder, hr]
    exact .refl
  | none =>
    obtain ⟨hid, hfr, hb, hrs⟩ := placeRefusal_none hr
    have he : command.context.requestKey ∉ s.placeSendAttemptKeys := fun hm => by
      simpa [hfr] using h.indexed _ hm
    have hc := appendDurablePair_cases h.ordered (hi 0) (hi 1)
      (show (placeOpening command (placeDispatch S command (io.clock 1)) io).1.eventType =
        .orderIntent from rfl)
      (show (placeOpening command (placeDispatch S command (io.clock 1)) io).2.eventType =
        .placeSendAttempt from rfl)
    rcases hc with ⟨_, j', heq, hfs, ho, -, hsn, hd⟩ |
      ⟨result, j', heq, ht, hrf⟩
    · simp only [placeOrder, hr]
      simp only [placeOpening] at heq
      rw [heq]
      exact .single (dispatchPlace_move rfl hid hfr he hb hrs rfl hfs ho
        hsn hd ((hi 2).imp_right fun hi => ⟨hsn.soundAfter, hi.2⟩) ha _)
    · have hf : ∃ failure, isLasting failure = true ∧
          (s.placeOrder S command lim reps io).1 =
            ((s.setJournal j').block failure).putRecord command.context.requestKey
              (unopenedPlace command (placeDispatch S command (io.clock 1)) failure) := by
        refine ⟨if result = .firstFailed then "OMS_INTENT_WRITE_FAILED"
          else "OMS_PLACE_SEND_ATTEMPT_WRITE_FAILED", ?_, ?_⟩
        · split_ifs <;> rfl
        simp only [placeOpening] at heq
        simp only [placeOrder, hr, heq]
        cases result with
        | committed => exact absurd rfl ht
        | firstFailed | secondFailed =>
          exact reject_of_fresh (s := (s.setJournal j').block _) hfr (toolCallId_ne_empty hid)
            _ _ _
      obtain ⟨_, hl, hs'⟩ := hf
      rw [hs']
      exact .single (@Move.opened S A s _ (pendingPlace command (placeDispatch S command (io.clock
        1))) hfr hid (unopenedPlace_closes hid hl hb hrf (fun _ _ => rfl)))

end System

end Hepta
