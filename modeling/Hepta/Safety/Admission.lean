import Hepta.Moves.Records

/-!
# Admission over an unresolved send

A placement or a flatten whose venue call has returned with an open outcome should keep the
coordinator blocked. There is one block with one reason, and lifting the block of a failed
projection looks at the reason alone: it also lifts the block that an earlier uncertain send relied
on. In runs where it is only called while nothing else is open, the block stands.
-/

namespace Hepta

open OmsJournal RequestRecord Hepta.System Finmap Coordinator

/-! ### The block reasons of replay -/

namespace Coordinator

variable {c c' : Coordinator} {event : OmsJournalEvent} {events : List OmsJournalEvent}
  {record : RequestRecord} {key : String}

lemma notReconnect_of_projectionFailure {rs : String}
    (h : isProjectionFailureReason rs = true) : notReconnect rs = true := by
  simp only [isProjectionFailureReason, Bool.or_eq_true, decide_eq_true_eq] at h
  rcases h with (rfl | rfl) | rfl <;> rfl

lemma notReconnect_applyRecoveredEvent (h : notReconnect c.mutationBlockReason = true)
    (hv : event.isCommand = true → event.eventType = .executionProjectionFailed →
      isProjectionFailureReason event.riskCode = true) :
    notReconnect (c.applyRecoveredEvent event).mutationBlockReason = true := by
  have hb : ∀ rs ∈ replayBlocks ++ ingressBlocks, notReconnect rs = true := by decide
  cases blockStep_applyRecoveredEvent c event with
  | kept _ rs => rwa [rs]
  | lifted _ _ rs =>
    rw [rs]
    rfl
  | failed failed _ rs =>
    have hr := hv failed.1 failed.2
    have hc : event.riskCode ≠ "" := by
      intro he
      simp [he, isProjectionFailureReason] at hr
    rw [rs hc]
    exact notReconnect_of_projectionFailure hr
  | blocked _ rs => exact hb _ (List.mem_append_left _ rs)
  | refused _ _ rs => exact hb _ (List.mem_append_right _ rs)

lemma notReconnect_recovered
    (h : ∀ e ∈ events, e.isCommand = true → e.eventType = .executionProjectionFailed →
      isProjectionFailureReason e.riskCode = true) :
    notReconnect (recovered events).mutationBlockReason = true := by
  have hr : notReconnect (replay events).mutationBlockReason = true :=
    List.foldlRecOn events applyRecoveredEvent
      (motive := fun c => notReconnect c.mutationBlockReason = true) rfl
      (fun _ hc event hm => notReconnect_applyRecoveredEvent hc (h event hm))
  unfold recovered validateRecovered
  split_ifs
  · rfl
  · exact hr

lemma uncertainRemains_of_lookup (h : c.requests.lookup key = some record)
    (hs : record.status = .uncertain) : c.uncertainRemains :=
  ⟨key, mem_keys.mpr (mem_iff.mpr ⟨record, h⟩), record, h, hs⟩

/-- Recovery closes admission over a command in doubt. -/
lemma mutationBlocked_recovered (h : (recovered events).requests.lookup key = some record)
    (hs : record.status = .uncertain) : (recovered events).mutationBlocked = true := by
  rw [requests_recovered] at h
  unfold recovered validateRecovered
  split_ifs with ho
  · rfl
  · have hr := uncertainRemains_of_lookup h hs
    simpa [hr] using ho

end Coordinator

/-! ### The invariant -/

variable {S : Service} {A : Allowance} {s s' : System} {reasons : String → Bool}

/-- A placement or a flatten with an open outcome is still at the venue, or admission is closed. -/
def Secured (s : System) : Prop :=
  ∀ key record, s.requests.lookup key = some record → record.unsettled →
    (∃ dispatch ∈ s.dispatches, dispatch.requestKey = key) ∨ s.mutationBlocked = true

/-- While the broker reconnects, nothing is at the venue and no outcome is open. -/
def Reconnecting (s : System) : Prop :=
  s.mutationBlocked = true → s.mutationBlockReason = brokerReconnectPending →
    s.dispatches = [] ∧ ∀ key record, s.requests.lookup key = some record → ¬ record.unsettled

structure Guarded (s : System) : Prop where
  secured : Secured s
  reconnecting : Reconnecting s
  projections : ∀ e ∈ s.journal.records, e.isCommand = true →
    e.eventType = .executionProjectionFailed → isProjectionFailureReason e.riskCode = true

/-- A failed projection is the only open outcome behind the block of a failed projection. -/
def System.onlyProjectionsOpen (s : System) : Prop :=
  isProjectionFailureReason s.mutationBlockReason = true →
    ∀ key ∈ s.requests.keys, ∀ record ∈ s.requests.lookup key, record.unsettled →
      (∀ dispatch ∈ s.dispatches, dispatch.requestKey ≠ key) →
        isProjectionFailureReason record.reasonCode = true
deriving Decidable

lemma Secured.of_insert (h : Secured s) {key : String} {record : RequestRecord}
    (hq : s'.requests = s.requests.insert key record)
    (hr : record.unsettled →
      (∃ dispatch ∈ s'.dispatches, dispatch.requestKey = key) ∨ s'.mutationBlocked = true)
    (hl : s.mutationBlocked = true → s'.mutationBlocked = true)
    (hd : ∀ dispatch ∈ s.dispatches, dispatch.requestKey ≠ key →
      dispatch ∈ s'.dispatches) : Secured s' := by
  intro key' record' hkn hu
  rw [hq] at hkn
  by_cases hk : key' = key
  · subst hk
    rw [lookup_insert, Option.some.injEq] at hkn
    subst hkn
    exact hr hu
  · rw [lookup_insert_of_ne _ hk] at hkn
    rcases h key' record' hkn hu with ⟨dispatch, hm, rfl⟩ | hb
    · exact .inl ⟨dispatch, hd dispatch hm hk, rfl⟩
    · exact .inr (hl hb)

lemma Blocks.blocked (h : Blocks reasons s s')
    (hb : s.mutationBlocked = true) : s'.mutationBlocked = true := by
  rcases h with ⟨heq, -⟩ | ⟨heq, -⟩
  · rw [heq, hb]
  · exact heq

lemma Blocks.reconnecting (h : Blocks reasons s s') (he : reasons brokerReconnectPending = false)
    (hb : s'.mutationBlocked = true) (hr : s'.mutationBlockReason = brokerReconnectPending) :
    s.mutationBlocked = true ∧ s.mutationBlockReason = brokerReconnectPending := by
  rcases h with ⟨hl, hs⟩ | ⟨-, hs⟩
  · exact ⟨hl ▸ hb, hs ▸ hr⟩
  · rw [hr, he] at hs
    simp at hs

/-- Nothing is open after work during a reconnect that leaves no open outcome. -/
lemma unsettled_of_insert {key : String} {record : RequestRecord}
    (hq : s'.requests = s.requests.insert key record) (hr : ¬ record.unsettled)
    (h : ∀ key record, s.requests.lookup key = some record → ¬ record.unsettled) :
    ∀ key record, s'.requests.lookup key = some record → ¬ record.unsettled := by
  intro key' record' hkn
  rw [hq] at hkn
  by_cases hk : key' = key
  · subst hk
    rw [lookup_insert, Option.some.injEq] at hkn
    exact hkn ▸ hr
  · rw [lookup_insert_of_ne _ hk] at hkn
    exact h key' record' hkn

lemma Writes.projections {key : String} {base record : RequestRecord}
    {start : RequestRecord → Prop} {stage : Stage} {events : List OmsJournalEvent}
    (hw : Writes S A key base start stage s events record s')
    (h : ∀ e ∈ s.journal.records, e.isCommand = true → e.eventType = .executionProjectionFailed →
      isProjectionFailureReason e.riskCode = true) :
    ∀ e ∈ s'.journal.records, e.isCommand = true → e.eventType = .executionProjectionFailed →
      isProjectionFailureReason e.riskCode = true := by
  intro e he hc ht
  rcases hw.journaled.mem_records.mp he with he | he
  · exact (hw.regular e he).projection hc ht
  · exact h e he hc ht

lemma Move.guarded (hl : ∀ s, A.lift s → s.onlyProjectionsOpen) (hc : Coherent S s)
    (h : Guarded s) (hv : Move S A s s') : Guarded s' := by
  cases hv with
  | opened fresh identified cl =>
    obtain ⟨events, record, hw, hs, hsp, hbs, hfl, -⟩ := cl
    have hd : s'.dispatches = s.dispatches := congrArg FlightView.dispatches hfl
    refine ⟨h.secured.of_insert hw.requests (fun hu => .inr (hs hu)) hbs.blocked
      (fun _ hm _ => hd ▸ hm), fun hb hr => ?_, hw.projections h.projections⟩
    obtain ⟨hb, hr⟩ := hbs.reconnecting rfl hb hr
    obtain ⟨hi, hnn⟩ := h.reconnecting hb hr
    have hj : record.status = .rejected := hsp hb (by rw [hr]; decide)
    exact ⟨hd.trans hi, unsettled_of_insert hw.requests
      (fun hu => absurd hu.1 (by simp [hj])) hnn⟩
  | @dispatched _ dispatch events fresh wellFormed writes attempted durable fl block admitted =>
    have hd : s'.dispatches = dispatch :: s.dispatches :=
      congrArg FlightView.dispatches fl
    refine ⟨h.secured.of_insert writes.requests
      (fun _ => .inl ⟨dispatch, by simp [hd], rfl⟩) (fun hb => block.1.trans hb)
      (fun _ hm _ => by simp [hd, hm]), fun hb hr => ?_,
      writes.projections h.projections⟩
    -- nothing is admitted during a reconnect
    have hrs := (admitted (block.1 ▸ hb)).1
    rw [← block.2, hr] at hrs
    exact absurd hrs (by decide)
  | @returned _ dispatch waiting cl =>
    obtain ⟨_, record, hw, hs, -, hbs, hfl, -⟩ := cl
    have hd : s'.dispatches = s.dispatches.erase dispatch :=
      congrArg FlightView.dispatches hfl
    refine ⟨h.secured.of_insert hw.requests (fun hu => .inr (hs hu)) hbs.blocked
      (fun other hm hh => ?_), fun hb hr => ?_, hw.projections h.projections⟩
    · have hne : other ≠ dispatch := fun heq => hh (congrArg Dispatch.requestKey heq)
      rw [hd, List.mem_erase_of_ne hne]
      exact hm
    · obtain ⟨hb, hr⟩ := hbs.reconnecting rfl hb hr
      rw [(h.reconnecting hb hr).1] at waiting
      simp at waiting
  | @resolved _ key record known live cl =>
    obtain ⟨_, record', hw, -, hcr, hbs, hfl, -⟩ :=
      cl (.unresolved record.operation) (by simp [Stage.resolvable])
    have hst : ¬ record'.unsettled := fun hu => hcr hu.1
    have hd : s'.dispatches = s.dispatches := congrArg FlightView.dispatches hfl
    refine ⟨h.secured.of_insert hw.requests (fun hu => absurd hu hst) hbs.blocked
      (fun _ hm _ => hd ▸ hm), fun hb hr => ?_, hw.projections h.projections⟩
    obtain ⟨hb, hr⟩ := hbs.reconnecting rfl hb hr
    obtain ⟨hi, hnn⟩ := h.reconnecting hb hr
    exact ⟨hd.trans hi, unsettled_of_insert hw.requests hst hnn⟩
  | @refused e j' rs refused lasting resolution =>
    refine ⟨fun _ _ _ _ => .inr rfl, fun _ hr => ?_, fun b hb hcm ht => ?_⟩
    · rw [show rs = brokerReconnectPending from hr] at lasting
      exact absurd lasting (by decide)
    · rcases refused.mem_records hb with rfl | hb
      · obtain ⟨record, -, -, -, hy⟩ := resolution hcm
        rcases Stage.resolvedBy_cases hy with ⟨-, heq⟩ | ⟨-, heq⟩ <;> simp [heq] at ht
      · exact h.projections b hb hcm ht
  | fenced al journaled ord sound fences rqs ows fl bks =>
    have hd : s'.dispatches = s.dispatches := congrArg FlightView.dispatches fl
    refine ⟨fun key record hk hu => ?_, fun hb hr => ?_, fun b hb hcm ht => ?_⟩
    · rw [hd]
      exact (h.secured key record (rqs ▸ hk) hu).imp_right bks.blocked
    · obtain ⟨hb, hr⟩ := bks.reconnecting rfl hb hr
      rw [hd, rqs]
      exact h.reconnecting hb hr
    · rcases journaled.mem_records.mp hb with hb | hb
      · have hf := (fences b hb).isFence
        simp [ht, EventType.isFence] at hf
      · exact h.projections b hb hcm ht
  | ended ap et =>
    refine ⟨h.secured, h.reconnecting, fun b hb hcm ht => ?_⟩
    rcases ap.enters.mem_records.mp hb with rfl | hb
    · simp [et] at ht
    · exact h.projections b hb hcm ht
  | forgot => exact ⟨h.secured, h.reconnecting, h.projections⟩
  | lifted al ap et blocked rs =>
    refine ⟨fun key record hk hu => ?_, fun hb => absurd hb (by simp [System.unblock]),
      fun b hb hcm ht => ?_⟩
    · obtain ⟨bf, hbf, rfl⟩ := Option.map_eq_some_iff.mp
        ((UMap.lookup_mapValues _ _ _).symm.trans hk)
      left
      by_contra hi
      -- a record that is not at the venue is a failed projection, and is accepted now
      have ho : bf.unsettled := by
        unfold resolveProjection at hu
        split_ifs at hu
        · exact absurd hu.1 (by simp)
        · exact hu
      have hfr := hl s al rs key (mem_keys.mpr (mem_iff.mpr ⟨bf,
        hbf⟩)) bf hbf ho (fun dispatch hm heq => hi ⟨dispatch, hm, heq⟩)
      simp [resolveProjection, hfr, RequestRecord.unsettled] at hu
    · rcases ap.enters.mem_records.mp hb with rfl | hb
      · simp [et] at ht
      · exact h.projections b hb hcm ht
  | preflight => exact ⟨h.secured, h.reconnecting, h.projections⟩
  | reconnecting free quiet =>
    have hi : s.dispatches = [] := List.eq_nil_of_length_eq_zero (hc.inFlight ▸ quiet)
    refine ⟨fun _ _ _ _ => .inr rfl, fun _ _ => ⟨hi, fun key record hk hu => ?_⟩, h.projections⟩
    rcases h.secured key record hk hu with ⟨_, hm, -⟩ | hb
    · simp [hi] at hm
    · simp [hb] at free
  | reconnected blocked rs =>
    refine ⟨fun key record hk hu => ?_, fun hb => absurd hb (by simp [System.unblock]),
      h.projections⟩
    exact absurd hu ((h.reconnecting blocked rs).2 key record hk)
  | released certain =>
    refine ⟨fun key record hk hu => ?_, fun hb => absurd hb (by simp [System.unblock]),
      h.projections⟩
    exact absurd (uncertainRemains_of_lookup hk hu.1) certain
  | flushed quiet =>
    exact ⟨h.secured, h.reconnecting, fun b hb => h.projections b (quiet.records ▸ hb)⟩
  | recovered source synced ord sound mem =>
    have hp : ∀ e ∈ s'.journal.records, e.isCommand = true →
        e.eventType = .executionProjectionFailed → isProjectionFailureReason e.riskCode = true := by
      intro b hb
      refine h.projections b ?_
      rcases source with ⟨hrc, -⟩ | hrc <;> rw [hrc] at hb
      · exact hb
      · exact synced_subset_records _ hb
    refine ⟨fun key record hk hu => .inr ?_, fun _ hr => ?_, hp⟩
    · rw [mem] at hk ⊢
      exact mutationBlocked_recovered hk hu.1
    · have hnt := notReconnect_recovered hp
      rw [← mem, hr] at hnt
      exact absurd hnt (by decide)
  | @unrecovered _ rs fault source ord lasting mem fl =>
    have he : s'.requests = ∅ := by
      rw [mem]
      rfl
    refine ⟨fun key record hk _ => ?_, fun _ hr => ?_, fun b hb => h.projections b ?_⟩
    · simp [he] at hk
    · rw [mem] at hr
      rw [show rs = brokerReconnectPending from hr] at lasting
      exact absurd lasting (by decide)
    · rcases source with ⟨hq, -⟩ | hq <;> rw [hq.records] at hb
      · exact hb
      · rw [afterCrash_records] at hb
        exact synced_subset_records _ hb

/-! ### Runs -/

namespace System

/-- Every placement or flatten with an open outcome that is back from the venue closes
admission. -/
def admissionClosed (s : System) : Prop :=
  ∀ key ∈ s.requests.keys, ∀ record ∈ s.requests.lookup key, record.unsettled →
    (∀ dispatch ∈ s.dispatches, dispatch.requestKey ≠ key) → s.mutationBlocked = true
deriving Decidable

/-- The block of a failed projection is lifted only where failed projections alone are open. -/
def liftsOnlyProjections (s : System) : Action → Prop
  | .resolveProjectionBlock _ => s.onlyProjectionsOpen
  | _ => True

instance (s : System) (action : Action) : Decidable (s.liftsOnlyProjections action) := by
  unfold liftsOnlyProjections; split <;> infer_instance

lemma placeOrder_of_mutationBlocked (h : s.mutationBlocked = true) (cd : PlaceOrderCommand)
    (lim : Option EntrySendAttemptLimit) (reps : PlaceReplies) (io : Io) :
    ∃ refusal, s.placeOrder S cd lim reps io = (s, some refusal) := by
  cases hr : s.placeRefusal S cd lim reps with
  | some refusal => exact ⟨refusal, by simp [placeOrder, hr]⟩
  | none => exact absurd (placeRefusal_none hr).2.2.1 (by simp [h])

end System

/-- Runs of any kind in which failed projections are lifted only where they alone are open. -/
def cautious : Allowance := { unrestricted with lift := onlyProjectionsOpen }

lemma meets_cautious {s : System} {actions : List Action}
    (h : meets S liftsOnlyProjections s actions) : meets S cautious.Permits s actions := by
  refine h.imp fun s a _ hl => ⟨.inl trivial, .inl trivial, .inl trivial,
    .inl trivial, .inl trivial, .inl trivial, fun _ _ => trivial, ?_⟩
  rintro io rfl
  exact hl

/-- In a run that lifts failed projections only where they alone are open, admission stays closed
over every open outcome: a placement changes nothing and is refused. -/
theorem admission_closed_over_open_outcomes (S : Service) (actions : List Action)
    (h : meets S liftsOnlyProjections {} actions) :
    (run S actions).admissionClosed ∧
      ∀ key record, (run S actions).requests.lookup key = some record → record.unsettled →
        (∀ dispatch ∈ (run S actions).dispatches, dispatch.requestKey ≠ key) →
        ∀ command limit replies io, ∃ refusal,
          (run S actions).placeOrder S command limit replies io = (run S actions, some refusal) := by
  have hg : Guarded (run S actions) := by
    have ht : Guarded {} := ⟨fun _ _ hk => by simp at hk, fun hb => by simp at hb,
      by simp [OmsJournal.records, OmsJournal.written, OmsJournal.pending]⟩
    exact (run_invariant ht (fun hc _ hs hv => hv.guarded (fun _ h => h) hc hs)
      (meets_cautious h)).2.2
  have hl : ∀ key record, (run S actions).requests.lookup key = some record →
      record.unsettled → (∀ dispatch ∈ (run S actions).dispatches, dispatch.requestKey ≠ key) →
      (run S actions).mutationBlocked = true := by
    intro key record hk hu hi
    rcases hg.secured key record hk hu with ⟨dispatch, hm, heq⟩ | hb
    · exact absurd heq (hi dispatch hm)
    · exact hb
  refine ⟨fun key _ => hl key, fun key record hk hu hi => ?_⟩
  exact placeOrder_of_mutationBlocked (hl key record hk hu hi)

/-- A failed projection is lifted, and a later placement is lost at the venue. -/
def lostAfterLift : List Action :=
  [.placeOrder (samplePlacement "filled") none {} {},
    .placeReturned (samplePlacement "filled")
      (placeDispatch sampleService (samplePlacement "filled") 0)
      (.returned { disposition := .submitted, orderId := 7 })
      { projection := .returned false "stale" } {},
    .resolveProjectionBlock {},
    .placeOrder (samplePlacement "lost") none {} {}, samplePlaced "lost" (.threw "timeout")]

set_option maxRecDepth 10000 in
theorem admission_closed_after_lost_placement :
    meets sampleService liftsOnlyProjections {} lostAfterLift ∧
      (run sampleService lostAfterLift).admissionClosed ∧
      (run sampleService lostAfterLift).mutationBlocked = true :=
  ⟨by decide, (admission_closed_over_open_outcomes sampleService lostAfterLift
    (by decide)).1, by decide +kernel⟩

/-- The venue loses a placement. The projection of a cancel then fails, which replaces the reason
of the block, and lifting that block opens admission while the placement is still in doubt. -/
def overwrittenBlock : List Action :=
  let cancel : CancelOrderCommand := { context := sampleContext "cancel", orderId := 7 }
  let working : List Action := [.placeOrder (samplePlacement "working") none {} {},
    samplePlaced "working" (.returned { disposition := .submitted, orderId := 7 })]
  working ++
    [.placeOrder (samplePlacement "lost") none {} {}, samplePlaced "lost" (.threw "timeout"),
      .cancelOrder cancel {},
      .cancelReturned cancel ((run sampleService working).cancelDispatch sampleService cancel)
        (.returned { disposition := .submitted }) (.returned false "stale") {},
      .resolveProjectionBlock {}]

set_option maxRecDepth 10000 in
theorem admission_open_over_lost_placement :
    ¬ (run sampleService overwrittenBlock).admissionClosed ∧
      (.place (samplePlacement "next") (placeDispatch sampleService (samplePlacement "next") 0)) ∈
        ((run sampleService overwrittenBlock).placeOrder sampleService (samplePlacement "next") none
          {} {}).1.dispatches := by
  decide

end Hepta
