import Hepta.Execution.Move

/-!
# The moves of the resolvers

One settled command is one move; a resolver makes one such move after another and may lift the
recovery block at its end.
-/

namespace Hepta

open OmsJournal RequestRecord Finmap Coordinator Stage

def RequestRecord.resolvedAs (record : RequestRecord) (accepted : Bool) (resolutionCode : String)
    (orderId : Int) : RequestRecord :=
  { record with
    status := if accepted then .accepted else .rejected
    orderId := orderId
    reasonCode := resolutionCode
    detail := resolutionCode }

lemma agrees_resolvedAs {record folded : RequestRecord} {event : OmsJournalEvent}
    (hs : Stems record folded) (hb : event.Belongs record)
    (hy : resolvedBy record.operation event.eventType = true) {accepted : Bool}
    {resolutionCode : String} {orderId : Int} (ho : event.orderId = orderId)
    (hstatus : event.status = if accepted then "accepted" else "rejected")
    (hc : event.riskCode = resolutionCode) :
    Agrees (record.resolvedAs accepted resolutionCode orderId) (folded.absorb event) := by
  have hf := hs.operation
  rcases resolvedBy_cases hy with ⟨hp, ht⟩ | ⟨hp, ht⟩
  · have hst : record.operation ≠ .unset := by
      rcases hp with h | h <;> simp [h]
    refine hs.agrees hb rfl rfl ?_ rfl ho.symm ?_ ?_
    · simp [absorb, hydrate, applyCommandState, ht, hf, hst]
    · cases accepted <;> simp [absorb, applyCommandState, ht, hstatus, resolvedAs]
    · simp [absorb, applyCommandState, ht, hc, resolvedAs]
  · refine hs.agrees hb rfl rfl ?_ rfl ho.symm ?_ ?_
    · simp [absorb, applyCommandState, ht, hp]
    · cases accepted <;> simp [absorb, applyCommandState, ht, hstatus, resolvedAs]
    · simp [absorb, applyCommandState, ht, hc, resolvedAs]

namespace System

variable {S : Service} {A : Allowance} {s s' : System} {evidence : CorrelationEvidence} {io : Io}
  {record : RequestRecord}

/-! ### One resolution -/

section

variable {key : String} {event : OmsJournalEvent} {accepted : Bool}
  {resolutionCode : String} {orderId : Int}

lemma resolved_move (hk : s.requests.lookup key = some record) (hl : ¬ record.inert)
    (hb : event.Belongs record) (hy : resolvedBy record.operation event.eventType = true)
    (ho : event.orderId = orderId)
    (hss : event.status = if accepted then "accepted" else "rejected")
    (hd : event.riskCode = resolutionCode) (ha : Appended S event s.journal s'.journal)
    (hr : s'.requests = s.requests.insert key (record.resolvedAs accepted resolutionCode orderId))
    (hw : A.reuse ∨ s'.orderOwners = applyCommandOwner s.orderOwners event)
    (hin : Inherits record s.orderOwners s'.orderOwners)
    (hv : s'.fenceView = s.fenceView ∧ s'.flightView = s.flightView)
    (hbl : s'.mutationBlocked = s.mutationBlocked ∧ s'.mutationBlockReason = s.mutationBlockReason)
    (hi : s'.sendIndex = s.sendIndex := by rfl) : Move S A s s' := by
  have hc : (record.resolvedAs accepted resolutionCode orderId).status ≠ .uncertain := by
    cases accepted <;> simp [resolvedAs]
  have hp : event.eventType.isProjectionFailure = false ∧
      event.eventType.isSendAttempt = false := by
    rcases resolvedBy_cases hy with ⟨-, ht⟩ | ⟨-, ht⟩ <;> rw [ht] <;>
      exact ⟨rfl, rfl⟩
  refine .resolved hk hl fun stage hs => ?_
  exact Closes.written ha hr hw hin hv hb rfl rfl
    (Stage.next_resolved hs hy) (inert.fits (inert_of_status hc) _)
    (fun _ hst => agrees_resolvedAs hst hb hy ho hss hd)
    (fun h => absurd h.1 hc) hc (.inl hbl) (by simp [hp.1]) hi hp.2

/-- A resolution that does not get through closes admission. -/
lemma refused_resolution_move {j' : OmsJournal} {rs : String}
    (hkn : s.requests.lookup key = some record) (hk : event.requestKey = key)
    (hlive : ¬ record.inert) (hb : event.Belongs record)
    (hy : resolvedBy record.operation event.eventType = true)
    (hr : Refused S A event s.journal j') (hl : isLasting rs = true) :
    Move S A s ((s.setJournal j').block rs) := by
  have ht := resolvedBy_cases hy
  refine .refused hr hl (fun _ => ⟨record, hk ▸ hkn, hlive, hb, hy⟩) ?_ ?_
    (OmsJournalEvent.authored_of_isCommand hb.isCommand)
  · rcases ht with ⟨-, ht⟩ | ⟨-, ht⟩ <;> rw [ht] <;> rfl
  · intro hs
    rcases ht with ⟨-, ht⟩ | ⟨-, ht⟩ <;> simp [hs] at ht

end

/-! ### The traversal -/

/-- What a resolver relies on while it traverses the requests. -/
structure Traversable (S : Service) (A : Allowance) (io : Io) (s : System) : Prop where
  ordered : Ordered S.config s.journal
  sound : ∀ n, Sound A s.journal (io.file n)
  keyed : ∀ key record, s.requests.lookup key = some record →
    record.context.requestKey = key ∧ record.context.identified = true

lemma Coherent.traversable (h : Coherent S s) (hi : ∀ n, Sound A s.journal (io.file n)) :
    Traversable S A io s :=
  ⟨h.ordered, hi, h.keyed⟩

/-- A settled command leaves the traversal in order. -/
lemma Traversable.resolved {key : String}
    {event : OmsJournalEvent} {accepted : Bool} {resolutionCode : String} {orderId : Int}
    (h : Traversable S A io s) (hkn : s.requests.lookup key = some record)
    (ha : Appended S event s.journal s'.journal)
    (hq : s'.requests = s.requests.insert key (record.resolvedAs accepted resolutionCode orderId)) :
    Traversable S A io s' where
  ordered := ha.ordered
  sound n := ha.next_sound (h.sound n)
  keyed key' record' hr' := by
    rw [hq] at hr'
    by_cases hk : key' = key
    · subst hk
      rw [lookup_insert, Option.some.injEq] at hr'
      subst hr'
      exact h.keyed _ record hkn
    · rw [lookup_insert_of_ne _ hk] at hr'
      exact h.keyed _ _ hr'

/-- One step of a traversal is at most one move that keeps `P`, and the end of a traversal that
gives up is reached by moves. -/
def ResolveStep.Makes (S : Service) (A : Allowance) (P : System → Prop) (s : System) :
    ResolveStep → Prop
  | .skip      => True
  | .settled s' => Move S A s s' ∧ P s'
  | .stop s' _ => Moves S A s s'

lemma forEachRequest_moves {P : System → Prop}
    {body : System → String → RequestRecord → Nat → ResolveStep}
    (hb : ∀ s key record n, P s → s.requests.lookup key = some record →
      ResolveStep.Makes S A P s (body s key record n))
    (keys : List String) (n : Nat) (hs : P s) :
    Moves S A s (forEachRequest body keys n s).1 := by
  induction keys generalizing n s with
  | nil => exact .refl
  | cons key keys ih =>
    cases hk : s.requests.lookup key with
    | none =>
      simp only [forEachRequest, hk]
      exact ih n hs
    | some record =>
      simp only [forEachRequest, hk]
      have ht := hb s key record n hs hk
      cases hr : body s key record n with
      | skip => exact ih n hs
      | settled =>
        rw [hr] at ht
        exact .head ht.1 (ih (n + 1) ht.2)
      | stop =>
        rw [hr] at ht
        exact ht

lemma releaseRecoveryBlock_moves (s : System) : Moves S A s s.releaseRecoveryBlock := by
  unfold releaseRecoveryBlock
  split_ifs with hr
  · exact .single (.released hr.1 hr.2)
  · exact .refl

lemma finishResolve_moves {outcome : System × ResolveResult} (h : Moves S A s outcome.1) :
    Moves S A s (finishResolve outcome).1 := by
  unfold finishResolve
  split_ifs
  · exact h.trans (releaseRecoveryBlock_moves outcome.1)
  · exact h

/-! ### The resolvers -/

lemma resolution_belongs (hi : record.context.identified = true)
    (tsMs : Int) {eventType : EventType} (hc : eventType.isCommand = true) (orderId : Int)
    (qty price : Double) (status code : String) {correlation : String}
    (hr : correlation = record.venueCorrelationId ∨ correlation = "") :
    (buildEvent tsMs record.context eventType orderId record.instrument record.side qty price status
      code code record.requestHash correlation).Belongs record :=
  ⟨(isCommand_buildEvent hi).trans hc, identity_buildEvent (toolCallId_ne_empty hi), hr⟩

/-- A resolution that is written settles its command; one that is refused ends the traversal. -/
lemma resolution_makes {P : System → Prop} {key code : String} {event : OmsJournalEvent}
    {settle : System → System} {n : Nat} (ht : Traversable S A io s)
    (hkn : s.requests.lookup key = some record) (hl : ¬ record.inert) (hb : event.Belongs record)
    (hy : resolvedBy record.operation event.eventType = true) (hc : isLasting code = true)
    (hs : ∀ j', Appended S event s.journal j' →
      Move S A s (settle (s.setJournal j')) ∧ P (settle (s.setJournal j'))) :
    ResolveStep.Makes S A P s (match s.appendOrBlock S event code (io.file n) with
      | (false, s) => .stop s code
      | (true, s) => .settled (settle s)) := by
  have he : event.eventType.opensPlace = false := by
    rcases resolvedBy_cases hy with ⟨-, h⟩ | ⟨-, h⟩ <;> rw [h] <;> rfl
  rcases appendOrBlock_cases ht.ordered (ht.sound n) event code he with
    ⟨j', heq, ha⟩ | ⟨j', heq, hr⟩ <;> rw [heq]
  · exact hs j' ha
  · exact .single (refused_resolution_move hkn (hb.requestKey.trans (ht.keyed key record hkn).1) hl
      hb hy hr hc)

lemma resolvePlaceRecord_makes (cors : OMap String Int)
    (mis : Bool) (key : String) (record : RequestRecord) (n : Nat)
    (h : Traversable S A io s) (hkn : s.requests.lookup key = some record) :
    ResolveStep.Makes S A (Traversable S A io) s
      (resolvePlaceRecord S cors mis io s key record n) := by
  have hd := (h.keyed key record hkn).2
  by_cases hs : ¬ record.placeResolvable ∨
      (cors.find record.venueCorrelationId = none ∧ (!mis) = true)
  · simp only [resolvePlaceRecord, if_pos hs]
    trivial
  have hrs : record.placeResolvable := not_not.mp (not_or.mp hs).1
  have hy : resolvedBy record.operation .executionCommandResolved = true := by
    rcases hrs.2.1 with hp | hp <;> rw [hp] <;> rfl
  have hl : ¬ record.inert := fun hi => hi.1 hrs
  have hb := fun orderId st code => resolution_belongs hd (io.clock n)
    (show EventType.isCommand .executionCommandResolved = true from rfl) orderId record.quantity
    record.price st code (.inl rfl)
  simp only [resolvePlaceRecord, if_neg hs]
  cases hc : (cors.find record.venueCorrelationId).any (0 ≤ ·) with
  | false =>
    simp only [Bool.false_eq_true, if_false]
    exact resolution_makes h hkn hl (hb _ _ _) hy rfl fun j' ha =>
      ⟨resolved_move hkn hl (hb _ _ _) hy rfl rfl rfl ha rfl (.inr rfl) (Inherits.refl _ _)
        ⟨rfl, rfl⟩ ⟨rfl, rfl⟩, h.resolved hkn ha rfl⟩
  | true =>
    obtain ⟨orderId, hv, ho⟩ := Option.any_eq_true _ _ |>.mp hc
    simp only [hv, Option.getD_some, if_true]
    refine resolution_makes h hkn hl (hb _ _ _) hy rfl fun j' ha =>
      ⟨resolved_move hkn hl (hb _ _ _) hy rfl rfl rfl ha rfl (.inr ?_) (Inherits.insert rfl _ _)
        ⟨rfl, rfl⟩ ⟨rfl, rfl⟩, h.resolved hkn ha rfl⟩
    have ho : 0 ≤ orderId := by simpa using ho
    simp only [applyCommandOwner, buildEvent, ho]
    exact congrArg (s.orderOwners.insert orderId) (owner_buildEvent).symm

theorem resolveUncertainPlaceCommands_moves (h : Coherent S s)
    (hi : ∀ n, Sound A s.journal (io.file n)) (cors : OMap String Int)
    (complete mis : Bool) (order : List String) :
    Moves S A s (s.resolveUncertainPlaceCommands S cors complete mis
      order io).1 := by
  unfold resolveUncertainPlaceCommands
  split_ifs
  · exact .refl
  · exact finishResolve_moves (forEachRequest_moves
      (fun _ key record n => resolvePlaceRecord_makes _ _ key record n) order 0
      (Coherent.traversable h hi))

lemma cancelResolvable_resolvedBy (h : record.cancelResolvable) :
    resolvedBy record.operation .cancelCommandResolved = true := by
  rw [h.2.1]
  rfl

lemma resolveCancelRecord_makes (evidence : CancelEvidence) (key : String)
    (record : RequestRecord) (n : Nat) (h : Traversable S A io s)
    (hkn : s.requests.lookup key = some record) :
    ResolveStep.Makes S A (Traversable S A io) s
      (resolveCancelRecord S evidence io s key record n) := by
  have hd := (h.keyed key record hkn).2
  by_cases hs : ¬ record.cancelResolvable ∨ record.orderId ∈ evidence.activeOrderIds ∨
      record.orderId = 0 ∨ (evidence.terminalStatuses.find record.orderId = none ∧
        (!decide (record.orderId ∈ evidence.executionOrderIds)) = true)
  · simp only [resolveCancelRecord, if_pos hs]
    trivial
  have hr : record.cancelResolvable := not_not.mp (not_or.mp hs).1
  have hl : ¬ record.inert := fun hi => hi.2 hr
  have hy := cancelResolvable_resolvedBy hr
  simp only [resolveCancelRecord, if_neg hs]
  generalize cancelResolutionAccepted (evidence.terminalStatuses.find record.orderId)
    (decide (record.orderId ∈ evidence.executionOrderIds)) = accepted
  generalize cancelResolutionCode (evidence.terminalStatuses.find record.orderId)
    (decide (record.orderId ∈ evidence.executionOrderIds)) = code
  have hb := resolution_belongs hd (io.clock n)
    (show EventType.isCommand .cancelCommandResolved = true from rfl) record.orderId .zero .zero
    (if accepted = true then "accepted" else "rejected") code (.inr rfl)
  refine resolution_makes h hkn hl hb hy rfl fun j' ha => ⟨resolved_move hkn hl hb hy rfl rfl rfl ha
    rfl (.inr ?_) (Inherits.erase _ _ _) ⟨rfl, rfl⟩ ⟨rfl, rfl⟩, h.resolved hkn ha rfl⟩
  simp only [applyCommandOwner, buildEvent, hr.2.2.2, if_true]
  rfl

theorem resolveUncertainCancelCommands_moves (h : Coherent S s)
    (hi : ∀ n, Sound A s.journal (io.file n)) (evidence : CancelEvidence) (order : List String) :
    Moves S A s (s.resolveUncertainCancelCommands S evidence order io).1 := by
  unfold resolveUncertainCancelCommands
  cases evidence.defect with
  | some => exact .refl
  | none =>
    exact finishResolve_moves (forEachRequest_moves (fun _ key record n => resolveCancelRecord_makes
      _ key record n) order 0 (Coherent.traversable h hi))

/-- Every cancel that the evidence settles finds its order without an owner or under an owner of
its own correlation. -/
def correlationsHold (s : System) (evidence : CorrelationEvidence) : Prop :=
  ∀ key ∈ s.requests.keys, ∀ record ∈ s.requests.lookup key, record.cancelResolvable →
    evidence.settles record.venueCorrelationId → ∀ owner ∈ s.orderOwners.lookup record.orderId,
      owner.venueCorrelationId = record.venueCorrelationId
deriving Decidable

lemma correlationsHold_iff :
    s.correlationsHold evidence ↔ ∀ key record, s.requests.lookup key = some record →
      record.cancelResolvable → evidence.settles record.venueCorrelationId →
        ∀ owner, s.orderOwners.lookup record.orderId = some owner →
          owner.venueCorrelationId = record.venueCorrelationId := by
  constructor
  · intro h key record hk
    exact h key (mem_keys.mpr (mem_iff.mpr ⟨record, hk⟩)) record hk
  · intro h key _ record hk
    exact h key record hk

lemma eraseCorrelatedOwner_owners
    (h : ∀ owner, s.orderOwners.lookup record.orderId = some owner →
      owner.venueCorrelationId = record.venueCorrelationId) :
    (s.eraseCorrelatedOwner record).orderOwners = s.orderOwners.erase record.orderId := by
  unfold eraseCorrelatedOwner
  cases hw : s.orderOwners.lookup record.orderId with
  | none =>
    apply ext_lookup
    intro orderId
    by_cases ho : orderId = record.orderId
    · subst ho
      rw [hw, lookup_erase]
    · rw [lookup_erase_ne ho]
  | some owner =>
    simp only [h owner hw, if_true]
    rfl

lemma eraseCorrelatedOwner_cases (s : System) (record : RequestRecord) :
    s.eraseCorrelatedOwner record = s ∨ s.eraseCorrelatedOwner record = s.eraseOwner record.orderId := by
  unfold eraseCorrelatedOwner
  split
  · split_ifs
    · exact .inr rfl
    · exact .inl rfl
  · exact .inl rfl

/-- The correlations still hold after one cancel is settled. -/
lemma correlationsHold.resolved {key : String}
    {accepted : Bool} {resolutionCode : String} {orderId : Int}
    (h : s.correlationsHold evidence)
    (hq : s'.requests = s.requests.insert key (record.resolvedAs accepted resolutionCode orderId))
    (ho : ∀ orderId owner, s'.orderOwners.lookup orderId = some owner →
      s.orderOwners.lookup orderId = some owner) : s'.correlationsHold evidence := by
  rw [correlationsHold_iff] at h ⊢
  intro key' record' hkn hr hs owner hw
  rw [hq] at hkn
  by_cases hk : key' = key
  · subst hk
    rw [lookup_insert, Option.some.injEq] at hkn
    subst hkn
    have hc := hr.1
    cases accepted <;> simp [resolvedAs] at hc
  · rw [lookup_insert_of_ne _ hk] at hkn
    exact h key' record' hkn hr hs owner (ho _ _ hw)

lemma settleByCorrelation_makes {key : String}
    (n : Nat) (ht : Traversable S A io s)
    (hcr : A.reuse ∨ s.correlationsHold evidence)
    (hkn : s.requests.lookup key = some record) (hr : record.cancelResolvable)
    (hs : evidence.settles record.venueCorrelationId) (accepted : Bool) (code : String) :
    ResolveStep.Makes S A
      (fun s => Traversable S A io s ∧ (A.reuse ∨ s.correlationsHold evidence)) s
      (match s.appendOrBlock S (buildEvent (io.clock n) record.context .cancelCommandResolved
          record.orderId record.instrument record.side .zero .zero
          (if accepted then "accepted" else "rejected") code code record.requestHash
          record.venueCorrelationId) "OMS_CANCEL_RESOLUTION_WRITE_FAILED" (io.file n) with
        | (false, s) => .stop s "OMS_CANCEL_RESOLUTION_WRITE_FAILED"
        | (true, s) => .settled ((s.settleRecord key record accepted code record.orderId)
            |>.eraseCorrelatedOwner record)) := by
  have hd := (ht.keyed key record hkn).2
  have hl : ¬ record.inert := fun hir => hir.2 hr
  have hy := cancelResolvable_resolvedBy hr
  have hb := resolution_belongs hd (io.clock n)
    (show EventType.isCommand .cancelCommandResolved = true from rfl) record.orderId .zero .zero
    (if accepted = true then "accepted" else "rejected") code (.inl rfl)
  refine resolution_makes ht hkn hl hb hy rfl fun j' ha => ?_
  let settled := (s.setJournal j').settleRecord key record accepted code record.orderId
  have hw : A.reuse ∨ (settled.eraseCorrelatedOwner record).orderOwners =
      s.orderOwners.erase record.orderId := by
    refine hcr.imp_right fun h => ?_
    have hh := correlationsHold_iff.mp h key record hkn hr hs
    exact eraseCorrelatedOwner_owners (s := settled) hh
  have hp : ∀ ows : UMap Int ExecutionOrderOwner, applyCommandOwner ows
      (buildEvent (io.clock n) record.context .cancelCommandResolved record.orderId
        record.instrument record.side .zero .zero
        (if accepted = true then "accepted" else "rejected") code code record.requestHash
        record.venueCorrelationId) = ows.erase record.orderId := by
    intro ows
    simp only [applyCommandOwner, buildEvent, hr.2.2.2, if_true]
  rw [← hp] at hw
  -- whether the owner goes or stays, no new one appears
  have hc := eraseCorrelatedOwner_cases settled record
  have hin : Inherits record s.orderOwners
      (settled.eraseCorrelatedOwner record).orderOwners := by
    rcases hc with h | h <;> rw [h]
    · exact Inherits.refl _ _
    · exact Inherits.erase _ _ _
  have hf : ∀ orderId owner,
      (settled.eraseCorrelatedOwner record).orderOwners.lookup orderId = some owner →
        s.orderOwners.lookup orderId = some owner := by
    intro orderId owner hon
    rcases hc with h | h <;> rw [h] at hon
    · exact hon
    · by_cases ho : orderId = record.orderId
      · subst ho
        simp [eraseOwner, lookup_erase] at hon
      · exact (lookup_erase_ne ho).symm.trans hon
  have hrs : (settled.eraseCorrelatedOwner record).journal = j' ∧
      (settled.eraseCorrelatedOwner record).requests =
        s.requests.insert key (record.resolvedAs accepted code record.orderId) ∧
      ((settled.eraseCorrelatedOwner record).fenceView = s.fenceView ∧
        (settled.eraseCorrelatedOwner record).flightView = s.flightView) ∧
      ((settled.eraseCorrelatedOwner record).mutationBlocked = s.mutationBlocked ∧
        (settled.eraseCorrelatedOwner record).mutationBlockReason = s.mutationBlockReason) ∧
      (settled.eraseCorrelatedOwner record).sendIndex = s.sendIndex := by
    rcases hc with h | h <;> rw [h] <;> exact ⟨rfl, rfl, ⟨rfl, rfl⟩, ⟨rfl, rfl⟩, rfl⟩
  obtain ⟨hj, hq, hv, hbl, hi⟩ := hrs
  rw [← hj] at ha
  exact ⟨resolved_move hkn hl hb hy rfl rfl rfl ha hq hw hin hv hbl hi,
    ht.resolved hkn ha hq, hcr.imp_right fun h => h.resolved hq hf⟩

lemma resolveCancelRecordByCorrelation_makes (evidence : CorrelationEvidence)
    (key : String) (record : RequestRecord) (n : Nat)
    (h : Traversable S A io s ∧ (A.reuse ∨ s.correlationsHold evidence))
    (hk : s.requests.lookup key = some record) :
    ResolveStep.Makes S A
      (fun s => Traversable S A io s ∧ (A.reuse ∨ s.correlationsHold evidence)) s
      (resolveCancelRecordByCorrelation S evidence io s key record n) := by
  simp only [resolveCancelRecordByCorrelation]
  by_cases hr : record.cancelResolvable
  · rw [if_neg (not_not.mpr hr)]
    by_cases hnm : record.venueCorrelationId = ""
    · rw [if_pos hnm]
      exact .refl
    rw [if_neg hnm]
    cases evidence.activeOrderIds.find record.venueCorrelationId with
    | some =>
      simp only []
      split_ifs
      · exact .refl
      · trivial
    | none =>
      simp only []
      by_cases hz : record.orderId = 0
      · rw [if_pos hz]
        trivial
      rw [if_neg hz]
      by_cases hm : (evidence.terminalOrderIds.find record.venueCorrelationId).any
          fun orderId => orderId ≠ 0 ∧ orderId ≠ record.orderId
      · rw [if_pos hm]
        exact .refl
      rw [if_neg hm]
      by_cases hs : evidence.settles record.venueCorrelationId
      · rw [if_neg (not_not.mpr hs)]
        by_cases ht : (evidence.terminalOrderIds.find record.venueCorrelationId).isSome ∧
            evidence.terminalStatuses.find record.venueCorrelationId = none
        · rw [if_pos ht]
          exact .refl
        · rw [if_neg ht]
          exact settleByCorrelation_makes n h.1 h.2 hk hr hs _ _
      · rw [if_pos hs]
        trivial
  · rw [if_pos hr]
    trivial

theorem resolveUncertainCancelCommandsByCorrelation_moves (h : Coherent S s)
    (hi : ∀ n, Sound A s.journal (io.file n))
    (hc : A.reuse ∨ s.correlationsHold evidence) (order : List String) :
    Moves S A s (s.resolveUncertainCancelCommandsByCorrelation S evidence order io).1 := by
  unfold resolveUncertainCancelCommandsByCorrelation
  cases evidence.defect with
  | some => exact .refl
  | none =>
    exact finishResolve_moves (forEachRequest_moves
      (fun _ key record n => resolveCancelRecordByCorrelation_makes _ key record n) order 0
      ⟨Coherent.traversable h hi, hc⟩)

theorem resolveProjectionBlock_moves (h : Coherent S s) (hi : ∀ n, Sound A s.journal (io.file n))
    (hl : A.lift s) : Moves S A s (s.resolveProjectionBlock S io).1 := by
  unfold resolveProjectionBlock
  by_cases hb : s.mutationBlocked = true
  · by_cases hr : isProjectionFailureReason s.mutationBlockReason = true
    · simp only [hb, hr, Bool.not_true, Bool.false_eq_true, if_false]
      let resolved : OmsJournalEvent :=
        { eventType := .executionProjectionResolved
          tsMs := io.clock 0
          eventId := "execution-projection-resolved:" ++ toString (io.clock 0)
          status := "authoritative_resync_complete"
          reason := s.mutationBlockReason
          source := "execution.coordinator" }
      rcases appendOrBlock_cases h.ordered (hi 0) resolved
        "OMS_EXECUTION_PROJECTION_RESOLUTION_WRITE_FAILED" with ⟨j', heq, ha⟩ | ⟨j', heq, hf⟩
      · simp only [resolved] at heq
        rw [heq]
        exact .single (.lifted hl ha rfl hb hr (.inr ⟨rfl, rfl⟩))
      · simp only [resolved] at heq
        rw [heq]
        refine .single (.refused hf rfl (fun hc => absurd hc ?_) rfl
          (fun _ => hr) (.inr ⟨rfl, rfl⟩))
        simp [OmsJournalEvent.isCommand, EventType.isCommand, resolved]
    · simp only [hb, hr, Bool.not_true, Bool.false_eq_true, if_false, Bool.not_false, if_true]
      exact .refl
  · simp only [hb, Bool.not_false, if_true]
    exact .refl

end System

end Hepta
