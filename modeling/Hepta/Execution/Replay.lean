import Hepta.Execution.Lifecycle

/-!
# What replay does

Replay folds the records of the journal into the coordinator's memory. Here the fold is taken
apart: what one record does to the request record of one command, to the order owners, to the
index of send attempts and to the calls under way.
-/

namespace Hepta

open List RequestRecord Finmap

abbrev OmsJournalEvent.concerns (e : OmsJournalEvent) (key : String) : Prop :=
  e.isCommand = true ∧ e.requestKey = key

lemma OmsJournalEvent.concerns.eventType_ne {e : OmsJournalEvent} {key : String}
    (h : e.concerns key) : e.eventType ≠ .executionProjectionResolved := by
  intro heq
  exact absurd h.1 (by simp [OmsJournalEvent.isCommand, EventType.isCommand, heq])

namespace Coordinator

variable {c c' : Coordinator} {event : OmsJournalEvent} {owners : UMap Int ExecutionOrderOwner}
  {owner : ExecutionOrderOwner} {orderId orderId' : Int}

/-! ### The kinds of records -/

lemma applyRecoveredOwnershipEvent_of_isCommand (h : event.eventType.isCommand = true) :
    c.applyRecoveredOwnershipEvent event = none := by
  unfold applyRecoveredOwnershipEvent
  split <;> simp_all [EventType.isCommand]

lemma applyRecoveredEvent_of_isCommand (h : event.isCommand = true) :
    c.applyRecoveredEvent event = c.applyRecoveredCommandEvent event := by
  simp only [OmsJournalEvent.isCommand, Bool.and_eq_true, decide_eq_true_eq] at h
  obtain ⟨⟨ht, hc⟩, ha⟩ := h
  have hr : event.eventType ≠ .executionProjectionResolved := by
    intro heq
    simp [heq, EventType.isCommand] at ht
  simp [applyRecoveredEvent, hr, hc, ha, applyRecoveredOwnershipEvent_of_isCommand ht]

/-- The index of send attempts: the commands it knows, and their attempts. -/
def sendIndex (c : Coordinator) : Finset String × List PlaceSendAttempt :=
  (c.placeSendAttemptKeys, c.placeSendAttempts)

/-- What a fence record or the end of an ownership leaves alone. -/
structure OwnershipFrame (event : OmsJournalEvent) (c c' : Coordinator) : Prop where
  requests : c'.requests = c.requests
  inFlight : c'.venueDispatchesInFlight = c.venueDispatchesInFlight
  scopes : c'.riskMutationDispatches = c.riskMutationDispatches
  index : c'.sendIndex = c.sendIndex
  owners : event.eventType ≠ .orderOwnerReconciledTerminal → c'.orderOwners = c.orderOwners

lemma OwnershipFrame.block (event : OmsJournalEvent) (c : Coordinator) (reason : String) :
    OwnershipFrame event c (c.block reason) := ⟨rfl, rfl, rfl, rfl, fun _ => rfl⟩

lemma applyRecoveredOwnershipEvent_frame (h : c.applyRecoveredOwnershipEvent event = some c') :
    OwnershipFrame event c c' := by
  unfold applyRecoveredOwnershipEvent at h
  split at h <;> rename_i ht <;> (try simp only [Option.some.injEq, reduceCtorEq] at h) <;> subst h
  · unfold applyRecoveredAccountFence
    split_ifs
    · exact .block _ _ _
    · exact ⟨rfl, rfl, rfl, rfl, fun _ => rfl⟩
  · exact ⟨rfl, rfl, rfl, rfl, fun _ => rfl⟩
  · simp only [applyRecoveredRecoveryOnly]
    split
    · exact .block _ _ _
    · split_ifs
      · exact .block _ _ _
      · exact ⟨rfl, rfl, rfl, rfl, fun _ => rfl⟩
  · simp only [applyRecoveredRelease]
    split
    · split_ifs
      · exact ⟨rfl, rfl, rfl, rfl, fun _ => rfl⟩
      · exact .block _ _ _
    · exact .block _ _ _
    · split_ifs
      · exact ⟨rfl, rfl, rfl, rfl, fun _ => rfl⟩
      · exact .block _ _ _
  · exact ⟨rfl, rfl, rfl, rfl, fun h => absurd ht h⟩
  · unfold applyRecoveredPaperTerminalFence
    split
    · exact .block _ _ _
    split_ifs
    · exact .block _ _ _
    · exact .block _ _ _
    · exact ⟨rfl, rfl, rfl, rfl, fun _ => rfl⟩

lemma applyRecoveredEvent_of_not_isCommand (h : event.isCommand = false)
    (hr : event.eventType ≠ .executionProjectionResolved) :
    ((event.commandId = "" ∨ event.agentId = "") ∧ c.applyRecoveredEvent event = c) ∨
      (¬ (event.commandId = "" ∨ event.agentId = "") ∧
        c.applyRecoveredOwnershipEvent event = some (c.applyRecoveredEvent event)) := by
  by_cases hnamed : event.commandId = "" ∨ event.agentId = ""
  · exact .inl ⟨hnamed, by simp [applyRecoveredEvent, hr, hnamed]⟩
  refine .inr ⟨hnamed, ?_⟩
  cases ho : c.applyRecoveredOwnershipEvent event with
  | some => simp [applyRecoveredEvent, hr, hnamed, ho]
  | none =>
    -- only the records of commands are left over
    have ht : event.eventType.isCommand = true := by
      unfold applyRecoveredOwnershipEvent at ho
      cases heq : event.eventType <;> simp_all [EventType.isCommand]
    rw [not_or] at hnamed
    simp [OmsJournalEvent.isCommand, ht, hnamed.1, hnamed.2] at h

/-! ### Calls under way -/

/-- No record is about a call under way. -/
lemma inFlight_applyRecoveredEvent (c : Coordinator) (event : OmsJournalEvent) :
    (c.applyRecoveredEvent event).venueDispatchesInFlight = c.venueDispatchesInFlight ∧
      (c.applyRecoveredEvent event).riskMutationDispatches = c.riskMutationDispatches := by
  by_cases hr : event.eventType = .executionProjectionResolved
  · simp only [applyRecoveredEvent, hr, if_true, applyRecoveredProjectionResolved]
    split_ifs <;> exact ⟨rfl, rfl⟩
  cases hc : event.isCommand with
  | true =>
    rw [applyRecoveredEvent_of_isCommand hc]
    simp only [applyRecoveredCommandEvent, trackRecoveredSendAttempt]
    split_ifs <;> exact ⟨rfl, rfl⟩
  | false =>
    rcases applyRecoveredEvent_of_not_isCommand (c := c) hc hr with ⟨-, h⟩ | ⟨-, h⟩
    · rw [h]
      exact ⟨rfl, rfl⟩
    · have hf := applyRecoveredOwnershipEvent_frame h
      exact ⟨hf.inFlight, hf.scopes⟩

lemma inFlight_recovered (events : List OmsJournalEvent) :
    (recovered events).venueDispatchesInFlight = 0 ∧
      (recovered events).riskMutationDispatches = ∅ := by
  have hr : (replay events).venueDispatchesInFlight = 0 ∧
      (replay events).riskMutationDispatches = ∅ := by
    refine foldlRecOn events applyRecoveredEvent (b := {}) (motive := fun c =>
      c.venueDispatchesInFlight = 0 ∧ c.riskMutationDispatches = ∅) ⟨rfl, rfl⟩ ?_
    intro c ih event _
    obtain ⟨hc, hs⟩ := inFlight_applyRecoveredEvent c event
    exact ⟨hc.trans ih.1, hs.trans ih.2⟩
  unfold recovered validateRecovered
  split_ifs <;> exact hr

@[simp] lemma venueDispatchesInFlight_recovered (events : List OmsJournalEvent) :
    (recovered events).venueDispatchesInFlight = 0 := (inFlight_recovered events).1

@[simp] lemma riskMutationDispatches_recovered (events : List OmsJournalEvent) :
    (recovered events).riskMutationDispatches = ∅ := (inFlight_recovered events).2

/-! ### Request records -/

def recordStep (key : String) (record : Option RequestRecord) (event : OmsJournalEvent) :
    Option RequestRecord :=
  if event.eventType = .executionProjectionResolved then record.map resolveProjection
  else if event.isCommand = true ∧ event.requestKey = key then
    let known := record.getD {}
    some (if known.hashConflict event then known else known.absorb event)
  else record

@[simp] lemma trackRecoveredSendAttempt_requests (c : Coordinator) (event : OmsJournalEvent) :
    (c.trackRecoveredSendAttempt event).requests = c.requests := by
  unfold trackRecoveredSendAttempt
  split_ifs <;> rfl

@[simp] lemma trackRecoveredSendAttempt_orderOwners (c : Coordinator) (event : OmsJournalEvent) :
    (c.trackRecoveredSendAttempt event).orderOwners = c.orderOwners := by
  unfold trackRecoveredSendAttempt
  split_ifs <;> rfl

lemma requests_applyRecoveredCommandEvent (c : Coordinator) (event : OmsJournalEvent) :
    (c.applyRecoveredCommandEvent event).requests = c.requests.insert event.requestKey
      (if ((c.requests.lookup event.requestKey).getD {}).hashConflict event then
        (c.requests.lookup event.requestKey).getD {}
      else ((c.requests.lookup event.requestKey).getD {}).absorb event) := by
  simp only [applyRecoveredCommandEvent, trackRecoveredSendAttempt_requests]
  split_ifs <;> simp [block, putRecord, absorb]

lemma lookup_applyRecoveredEvent (c : Coordinator) (event : OmsJournalEvent) (key : String) :
    (c.applyRecoveredEvent event).requests.lookup key =
      recordStep key (c.requests.lookup key) event := by
  unfold recordStep
  by_cases hr : event.eventType = .executionProjectionResolved
  · simp only [applyRecoveredEvent, hr, if_true, applyRecoveredProjectionResolved]
    split_ifs <;> simp
  rw [if_neg hr]
  cases hc : event.isCommand with
  | true =>
    rw [applyRecoveredEvent_of_isCommand hc, requests_applyRecoveredCommandEvent]
    by_cases hk : event.requestKey = key
    · subst hk
      simp
    · rw [lookup_insert_of_ne _ (Ne.symm hk)]
      simp [hk]
  | false =>
    rw [if_neg (by simp)]
    rcases applyRecoveredEvent_of_not_isCommand (c := c) hc hr with ⟨-, h⟩ | ⟨-, h⟩
    · rw [h]
    · rw [(applyRecoveredOwnershipEvent_frame h).requests]

/-- Replay folds the records of one command by themselves. -/
theorem lookup_replay (events : List OmsJournalEvent) (key : String) :
    (replay events).requests.lookup key = events.foldl (recordStep key) none := by
  have hf : ∀ c : Coordinator, (events.foldl applyRecoveredEvent c).requests.lookup key =
      events.foldl (recordStep key) (c.requests.lookup key) := by
    induction events with
    | nil => exact fun _ => rfl
    | cons event events ih =>
      intro c
      rw [foldl_cons, foldl_cons, ih, lookup_applyRecoveredEvent]
  exact hf {}

@[simp] lemma requests_recovered (events : List OmsJournalEvent) :
    (recovered events).requests = (replay events).requests := by
  unfold recovered validateRecovered
  split_ifs <;> rfl

@[simp] lemma orderOwners_recovered (events : List OmsJournalEvent) :
    (recovered events).orderOwners = (replay events).orderOwners := by
  unfold recovered validateRecovered
  split_ifs <;> rfl

@[simp] lemma resolveProjection_context (r : RequestRecord) :
    (resolveProjection r).context = r.context := by
  unfold resolveProjection
  split_ifs <;> rfl

lemma absorb_keyed (r : RequestRecord) (hc : event.isCommand = true)
    (hm : event.traceId ≠ "") :
    (r.absorb event).context.requestKey = event.requestKey ∧
      (r.absorb event).context.identified = true := by
  simp only [OmsJournalEvent.isCommand, Bool.and_eq_true, decide_eq_true_eq] at hc
  constructor
  · simp [AgentExecutionContext.requestKey, OmsJournalEvent.requestKey]
  · simp [AgentExecutionContext.identified, hc, hm]

lemma keyed_replay {events : List OmsJournalEvent}
    (hnm : ∀ e ∈ events, e.isCommand = true → e.traceId ≠ "") {key : String}
    {r : RequestRecord} (h : (replay events).requests.lookup key = some r) :
    r.context.requestKey = key ∧ r.context.identified = true := by
  rw [lookup_replay] at h
  refine foldlRecOn events (recordStep key) (motive := fun folded => ∀ r ∈ folded,
    r.context.requestKey = key ∧ r.context.identified = true) (by simp) ?_ r h
  intro folded ih event hm r hr
  unfold recordStep at hr
  split_ifs at hr with hs hc
  · obtain ⟨known, hk, rfl⟩ := Option.mem_map.mp hr
    simpa using ih known hk
  · obtain ⟨hc, rfl⟩ := hc
    have ha := fun r => absorb_keyed r hc (hnm event hm hc)
    cases folded with
    | none =>
      simp [hashConflict] at hr
      exact hr ▸ ha {}
    | some known =>
      simp only [Option.getD_some, Option.mem_some_iff] at hr
      split_ifs at hr
      · exact hr ▸ ih known rfl
      · exact hr ▸ ha known
  · exact ih r hr

/-! ### Order owners -/

/-- What a record of the journal does to the order owners, hash conflicts aside. -/
def ownerStep (owners : UMap Int ExecutionOrderOwner) (event : OmsJournalEvent) :
    UMap Int ExecutionOrderOwner :=
  if event.commandId = "" ∨ event.agentId = "" then owners
  else if event.eventType = .orderOwnerReconciledTerminal then owners.erase event.orderId
  else applyCommandOwner owners event

lemma applyCommandOwner_of_not_isCommand (h : event.eventType.isCommand = false)
    (owners : UMap Int ExecutionOrderOwner) : applyCommandOwner owners event = owners := by
  unfold applyCommandOwner
  split <;> simp_all [EventType.isCommand]

lemma lookup_insert_cases {owner' : ExecutionOrderOwner}
    (h : (owners.insert orderId owner).lookup orderId' = some owner') : owners.lookup orderId' =
    some owner' ∨ owner' = owner := by
  by_cases ho : orderId' = orderId
  · subst ho
    rw [lookup_insert, Option.some.injEq] at h
    exact .inr h.symm
  · rw [lookup_insert_of_ne _ ho] at h
    exact .inl h

lemma lookup_of_lookup_erase (h : (owners.erase orderId).lookup orderId' = some owner) :
    owners.lookup orderId' = some owner := by
  by_cases ho : orderId' = orderId
  · subst ho
    simp [lookup_erase] at h
  · rwa [lookup_erase_ne ho] at h

lemma lookup_applyCommandOwner (h : (applyCommandOwner owners event).lookup orderId = some owner) :
    owners.lookup orderId = some owner ∨ owner = event.owner := by
  unfold applyCommandOwner at h
  cases ht : event.eventType <;> simp only [ht] at h <;> (try split_ifs at h) <;>
    first
    | exact .inl h
    | exact lookup_insert_cases h
    | exact .inl (lookup_of_lookup_erase h)

lemma ownerStep_of_isCommand (h : event.isCommand = true) (owners : UMap Int ExecutionOrderOwner) :
    ownerStep owners event = applyCommandOwner owners event := by
  simp only [OmsJournalEvent.isCommand, Bool.and_eq_true, decide_eq_true_eq] at h
  have ht : event.eventType ≠ .orderOwnerReconciledTerminal := by
    intro heq
    simp [heq, EventType.isCommand] at h
  simp [ownerStep, h.1.2, h.2, ht]

/-- A record either does what `ownerStep` says, or is refused for its request hash. -/
lemma orderOwners_applyRecoveredEvent (c : Coordinator) (event : OmsJournalEvent) :
    (c.applyRecoveredEvent event).orderOwners = ownerStep c.orderOwners event ∨
      ((c.applyRecoveredEvent event).orderOwners = c.orderOwners ∧ event.isCommand = true ∧
        ((c.requests.lookup event.requestKey).getD {}).hashConflict event) := by
  by_cases hr : event.eventType = .executionProjectionResolved
  · left
    simp only [applyRecoveredEvent, hr, if_true, applyRecoveredProjectionResolved, ownerStep,
      reduceCtorEq, if_false]
    rw [applyCommandOwner_of_not_isCommand (by rw [hr]; rfl)]
    split_ifs <;> rfl
  cases hc : event.isCommand with
  | true =>
    rw [applyRecoveredEvent_of_isCommand hc, ownerStep_of_isCommand hc]
    simp only [applyRecoveredCommandEvent, trackRecoveredSendAttempt_requests,
      trackRecoveredSendAttempt_orderOwners]
    split_ifs with hcn
    · exact .inr ⟨by simp [block, putRecord], trivial, hcn⟩
    · exact .inl (by simp [block])
    · exact .inl rfl
  | false =>
    left
    rcases applyRecoveredEvent_of_not_isCommand (c := c) hc hr with
      ⟨hm, h⟩ | ⟨hm, h⟩
    · rw [h, ownerStep, if_pos hm]
    rw [ownerStep, if_neg hm]
    by_cases ht : event.eventType = .orderOwnerReconciledTerminal
    · rw [if_pos ht]
      simp only [applyRecoveredOwnershipEvent, ht, Option.some.injEq] at h
      rw [← h]
      rfl
    · rw [not_or] at hm
      have hy : event.eventType.isCommand = false := by
        simpa [OmsJournalEvent.isCommand, hm.1, hm.2] using hc
      rw [if_neg ht, applyCommandOwner_of_not_isCommand hy,
        (applyRecoveredOwnershipEvent_frame h).owners ht]

lemma lookup_ownerStep (h : (ownerStep owners event).lookup orderId = some owner) :
    owners.lookup orderId = some owner ∨ owner.agentId ≠ "" := by
  unfold ownerStep at h
  split_ifs at h with hm ht
  · exact .inl h
  · exact .inl (lookup_of_lookup_erase h)
  · rw [not_or] at hm
    rcases lookup_applyCommandOwner h with h | rfl
    · exact .inl h
    · exact .inr hm.2

lemma owned_replay (events : List OmsJournalEvent)
    (h : (replay events).orderOwners.lookup orderId = some owner) : owner.agentId ≠ "" := by
  refine foldlRecOn events applyRecoveredEvent (motive := fun c => ∀ orderId owner,
    c.orderOwners.lookup orderId = some owner → owner.agentId ≠ "") (by simp) ?_ orderId owner h
  intro c ih event _ orderId owner ho
  rcases orderOwners_applyRecoveredEvent c event with h | ⟨h, -⟩ <;> rw [h] at ho
  · exact (lookup_ownerStep ho).elim (ih orderId owner) id
  · exact ih orderId owner ho

/-! ### Send attempts -/

def sendStep (index : Finset String × List PlaceSendAttempt) (event : OmsJournalEvent) :
    Finset String × List PlaceSendAttempt :=
  if event.isCommand = true ∧ isSendEvidence event.eventType = true ∧
      event.requestKey ∉ index.1 then
    (insert event.requestKey index.1,
      index.2 ++ [⟨event.requestKey, event.account, event.executionDomain, event.tsMs⟩])
  else index

lemma sendIndex_applyRecoveredEvent (c : Coordinator) (event : OmsJournalEvent) :
    (c.applyRecoveredEvent event).sendIndex = sendStep c.sendIndex event := by
  unfold sendStep
  by_cases hr : event.eventType = .executionProjectionResolved
  · rw [if_neg (by simp [hr, isSendEvidence])]
    simp only [applyRecoveredEvent, hr, if_true, applyRecoveredProjectionResolved]
    split_ifs <;> rfl
  cases hc : event.isCommand with
  | true =>
    have ht : (c.trackRecoveredSendAttempt event).sendIndex =
        if isSendEvidence event.eventType = true ∧ event.requestKey ∉ c.sendIndex.1 then
          (insert event.requestKey c.sendIndex.1, c.sendIndex.2 ++
            [⟨event.requestKey, event.account, event.executionDomain, event.tsMs⟩])
        else c.sendIndex := by
      unfold trackRecoveredSendAttempt
      by_cases hs : isSendEvidence event.eventType = true <;>
        by_cases hk : event.requestKey ∈ c.placeSendAttemptKeys <;>
          simp [hs, hk, sendIndex]
    rw [applyRecoveredEvent_of_isCommand hc]
    simp only [true_and, ← ht, applyRecoveredCommandEvent]
    split_ifs <;> rfl
  | false =>
    rw [if_neg (by simp)]
    rcases applyRecoveredEvent_of_not_isCommand (c := c) hc hr with ⟨-, h⟩ | ⟨-, h⟩
    · rw [h]
    · exact (applyRecoveredOwnershipEvent_frame h).index

lemma sendIndex_replay (events : List OmsJournalEvent) :
    (replay events).sendIndex = events.foldl sendStep (∅, []) := by
  have hf : ∀ c : Coordinator, (events.foldl applyRecoveredEvent c).sendIndex =
      events.foldl sendStep c.sendIndex := by
    induction events with
    | nil => exact fun _ => rfl
    | cons event events ih =>
      intro c
      rw [foldl_cons, foldl_cons, ih, sendIndex_applyRecoveredEvent]
  exact hf {}

@[simp] lemma sendIndex_recovered (events : List OmsJournalEvent) :
    (recovered events).sendIndex = (replay events).sendIndex := by
  unfold recovered validateRecovered
  split_ifs <;> rfl

lemma isSome_recordStep {key : String} {r : Option RequestRecord} (h : r.isSome = true)
    (event : OmsJournalEvent) : (recordStep key r event).isSome = true := by
  unfold recordStep
  split_ifs
  · simpa using h
  · rfl
  · exact h

lemma isSome_lookup_replay {events : List OmsJournalEvent} (hm : event ∈ events)
    (hc : event.isCommand = true) :
    ((replay events).requests.lookup event.requestKey).isSome = true := by
  obtain ⟨_, back, rfl⟩ := append_of_mem hm
  rw [lookup_replay, foldl_append, foldl_cons]
  refine foldlRecOn back _ (motive := fun r : Option RequestRecord => r.isSome = true) ?_
    (fun _ h event _ => isSome_recordStep h event)
  have ht : event.eventType ≠ .executionProjectionResolved := by
    intro heq
    simp [OmsJournalEvent.isCommand, EventType.isCommand, heq] at hc
  simp [recordStep, ht, hc]

lemma indexed_replay (events : List OmsJournalEvent) {key : String}
    (h : key ∈ (replay events).placeSendAttemptKeys) :
    ((replay events).requests.lookup key).isSome = true := by
  have hy : ∀ key ∈ (events.foldl sendStep (∅, [])).1,
      ∃ event ∈ events, event.isCommand = true ∧ event.requestKey = key := by
    refine foldlRecOn events sendStep (b := (∅, [])) (motive := fun ix => ∀ key ∈ ix.1,
      ∃ event ∈ events, event.isCommand = true ∧ event.requestKey = key) (by simp) ?_
    intro ix ih event hm key hk
    unfold sendStep at hk
    split_ifs at hk with hs
    · rcases Finset.mem_insert.mp hk with rfl | hk
      · exact ⟨event, hm, hs.1, rfl⟩
      · exact ih key hk
    · exact ih key hk
  obtain ⟨_, hm, hc, rfl⟩ := hy key (by rwa [← sendIndex_replay])
  exact isSome_lookup_replay hm hc

variable {key : String} {known : Option RequestRecord} {events : List OmsJournalEvent}
  {hash : String → String}

lemma recordStep_of_not_concerns (h : ¬ event.concerns key)
    (ht : event.eventType ≠ .executionProjectionResolved) : recordStep key known event = known := by
  unfold recordStep
  rw [if_neg ht, if_neg h]

/-- No projection of the command has failed. -/
def Calm (known : Option RequestRecord) : Prop :=
  ∀ record ∈ known, isProjectionFailureReason record.reasonCode = false

lemma recordStep_of_calm (h : Calm known) (ho : ¬ event.concerns key) :
    recordStep key known event = known := by
  by_cases ht : event.eventType = .executionProjectionResolved
  · rw [recordStep, if_pos ht]
    cases known with
    | none => rfl
    | some r => simp [resolveProjection, h r rfl]
  · exact recordStep_of_not_concerns ho ht

/-! ### Request hashes -/

@[simp] lemma resolveProjection_requestHash (r : RequestRecord) :
    (resolveProjection r).requestHash = r.requestHash := by
  unfold resolveProjection
  split_ifs <;> rfl

/-- The records of each command carry one request hash. -/
def Uniform (hash : String → String) (events : List OmsJournalEvent) : Prop :=
  ∀ e ∈ events, e.isCommand = true → e.requestHash = hash e.requestKey

lemma Uniform.subset {events' : List OmsJournalEvent}
    (h : Uniform hash events) (hs : events' ⊆ events) : Uniform hash events' :=
  fun e he => h e (hs he)

lemma recordStep_of_concerns (h : event.concerns key) (r : RequestRecord) (hr : known.getD {} = r)
    (hh : r.requestHash = event.requestHash ∨ r.requestHash = "") :
    recordStep key known event = some (r.absorb event) := by
  have hc : ¬ r.hashConflict event := by
    rintro ⟨he, -, he'⟩
    exact hh.elim he' he
  rw [recordStep, if_neg h.eventType_ne, if_pos h]
  simp [hr, hc]

lemma requestHash_foldl (h : Uniform hash events) (key : String) :
    (∀ e ∈ events, ¬ e.concerns key) ∧ events.foldl (recordStep key) none = none ∨
      ∃ record, events.foldl (recordStep key) none = some record ∧
        record.requestHash = hash key := by
  induction events using reverseRecOn with
  | nil => exact .inl ⟨by simp, rfl⟩
  | append_singleton events event ih =>
    have ih := ih (h.subset (subset_append_left _ _))
    rw [foldl_append, foldl_cons, foldl_nil]
    by_cases hc : event.concerns key
    · have hv : event.requestHash = hash key :=
        hc.2 ▸ h event (by simp) hc.1
      right
      rcases ih with ⟨-, heq⟩ | ⟨record, heq, hr⟩
      · refine ⟨_, recordStep_of_concerns hc {} (by simp [heq]) (.inr rfl), ?_⟩
        simp [hv]
      · refine ⟨_, recordStep_of_concerns hc record (by simp [heq])
          (.inl (hr.trans hv.symm)), ?_⟩
        simp [hr, hv]
    · rcases ih with ⟨hnn, heq⟩ | ⟨record, heq, hr⟩
      · refine .inl ⟨?_, ?_⟩
        · simp only [mem_append, List.mem_singleton]
          rintro e (he | rfl)
          · exact hnn e he
          · exact hc
        · rw [heq, recordStep_of_calm (by simp [Calm]) hc]
      · right
        rw [heq]
        by_cases ht : event.eventType = .executionProjectionResolved
        · exact ⟨resolveProjection record, by simp [recordStep, ht], by simp [hr]⟩
        · exact ⟨record, recordStep_of_not_concerns hc ht, hr⟩

lemma orderOwners_replay (h : Uniform hash events) :
    (replay events).orderOwners = events.foldl ownerStep ∅ := by
  induction events using reverseRecOn with
  | nil => rfl
  | append_singleton events event ih =>
    have hb := h.subset (subset_append_left _ _)
    rw [foldl_append, foldl_cons, foldl_nil, ← ih hb]
    simp only [replay, foldl_append, foldl_cons, foldl_nil]
    rcases orderOwners_applyRecoveredEvent (events.foldl applyRecoveredEvent {}) event with
      heq | ⟨-, hm, hc⟩
    · exact heq
    exfalso
    have he := h event (by simp) hm
    have hl := lookup_replay events event.requestKey
    rw [replay] at hl
    rw [hl] at hc
    rcases requestHash_foldl hb event.requestKey with
      ⟨-, heq⟩ | ⟨record, heq, hr⟩ <;> rw [heq] at hc
    · exact hc.1 rfl
    · exact hc.2.2 (hr.trans he.symm)

end Coordinator

end Hepta
