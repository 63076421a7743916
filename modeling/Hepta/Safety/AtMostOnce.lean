import Hepta.Moves.Step

/-!
# At most one venue call per command

With synced critical records, a command reaches the venue at most once over all crashes and
restarts. The journal keeps the send attempt of every call; recovery turns it into a request record,
and a command with a record is never dispatched. A process that could not read its journal knows no
commands, but it stays blocked.
-/

namespace Hepta

open List OmsJournal RequestRecord Hepta.System Coordinator

variable {S : Service} {A : Allowance} {s s' : System}

/-- The process is blocked for good: no command gets to the venue before the next restart. -/
structure Dead (s : System) : Prop where
  blocked : s.mutationBlocked = true
  lasting : isLasting s.mutationBlockReason = true
  idle : s.dispatches = []

def VenueCall.Attempted (call : VenueCall) (records : List OmsJournalEvent) : Prop :=
  ∃ e ∈ records, e.eventType = call.dispatch.sendAttempt ∧ e.Belongs call.dispatch.pending

/-- What the journal and the memory know of the calls that were made. -/
structure Accounted (s : System) : Prop where
  distinct : (s.venueCalls.map fun call => call.dispatch.requestKey).Nodup
  wellFormed : ∀ call ∈ s.venueCalls, call.dispatch.WellFormed
  preceded : ∀ call ∈ s.venueCalls, call.Attempted call.syncedBefore
  attempted : ∀ call ∈ s.venueCalls, call.Attempted s.journal.synced
  known : Dead s ∨
    ∀ call ∈ s.venueCalls, (s.requests.lookup call.dispatch.requestKey).isSome = true

lemma VenueCall.Attempted.mono {call : VenueCall} {records records' : List OmsJournalEvent}
    (h : call.Attempted records) (hs : records ⊆ records') : call.Attempted records' := by
  obtain ⟨e, he, ht⟩ := h
  exact ⟨e, hs he, ht⟩

lemma Accounted.of_same (h : Accounted s) (hc : s'.venueCalls = s.venueCalls)
    (hs : s.journal.synced <+: s'.journal.synced)
    (hk : Dead s → Dead s')
    (hr : ∀ key, (s.requests.lookup key).isSome = true →
      (s'.requests.lookup key).isSome = true) : Accounted s' where
  distinct := hc ▸ h.distinct
  wellFormed := hc ▸ h.wellFormed
  preceded := hc ▸ h.preceded
  attempted call hm := (h.attempted call (hc ▸ hm)).mono hs.subset
  known := h.known.imp hk fun h call hm => hr _ (h call (hc ▸ hm))

lemma isSome_lookup_insert {rqs : UMap String RequestRecord} {key key' : String} {r : RequestRecord}
    (h : (rqs.lookup key').isSome = true) : ((rqs.insert key r).lookup key').isSome = true := by
  by_cases hk : key' = key
  · subst hk
    simp
  · rwa [Finmap.lookup_insert_of_ne _ hk]

lemma Dead.of_blocks {reasons : String → Bool} (h : Dead s)
    (hrs : ∀ reason, reasons reason = true → isLasting reason = true)
    (hs : Blocks reasons s s') (hf : s'.flightView = s.flightView) : Dead s' := by
  have hd : s'.dispatches = s.dispatches := congrArg FlightView.dispatches hf
  rcases hs with ⟨hb, hr⟩ | ⟨hb, hr⟩
  · exact ⟨hb ▸ h.blocked, hr ▸ h.lasting, hd ▸ h.idle⟩
  · exact ⟨hb, hrs _ hr, hd ▸ h.idle⟩

lemma Dead.not_clearable (h : Dead s) : isClearable s.mutationBlockReason = false := by
  simpa [isLasting] using h.lasting

/-- What recovery has read, it knows. -/
lemma Accounted.of_recovered (h : Accounted s) (hc : s'.venueCalls = s.venueCalls)
    (hs : s.journal.synced ⊆ s'.journal.synced)
    (hr : s'.journal.synced = s'.journal.records)
    (hy : s'.toCoordinator = Coordinator.recovered s'.journal.records) : Accounted s' where
  distinct := hc ▸ h.distinct
  wellFormed := hc ▸ h.wellFormed
  preceded := hc ▸ h.preceded
  attempted call hm := (h.attempted call (hc ▸ hm)).mono hs
  known := by
    refine .inr fun call hm => ?_
    rw [hc] at hm
    obtain ⟨e, he, -, hb⟩ := (h.attempted call hm).mono hs
    have hk : call.dispatch.requestKey = e.requestKey := by
      rw [hb.requestKey, call.dispatch.pending_context, (h.wellFormed call hm).requestKey]
    rw [hy, requests_recovered, hk]
    exact isSome_lookup_replay (hr ▸ he) hb.isCommand

lemma Move.accounted (hsn : S.config.syncCritical = true) (h : Accounted s)
    (hv : Move S A s s') : Accounted s' := by
  cases hv with
  | opened fresh identified cl =>
    obtain ⟨es, record, hw, -, -, hb, hf, -⟩ := cl
    refine h.of_same (congrArg FlightView.venueCalls hf) hw.journaled.synced
      (fun hd => hd.of_blocks (fun _ h => h) hb hf) fun key hk => ?_
    rw [hw.requests]
    exact isSome_lookup_insert hk
  | @dispatched _ dispatch es fresh wellFormed writes attempted durable fl block admitted =>
    have hc : s'.venueCalls = ⟨dispatch, s'.journal.synced⟩ :: s.venueCalls :=
      congrArg FlightView.venueCalls fl
    -- a blocked process only lets cancels through, and only while it waits for reconciliation
    have hkn := h.known.resolve_left fun hd => by
      have hre := (admitted hd.blocked).1
      have hl := hd.not_clearable
      rw [hre] at hl
      simp [isClearable] at hl
    have ha : (⟨dispatch, s'.journal.synced⟩ : VenueCall).Attempted s'.journal.synced :=
      durable hsn
    refine ⟨?_, ?_, ?_, ?_, .inr ?_⟩ <;> rw [hc]
    · rw [map_cons, nodup_cons]
      refine ⟨fun hm => ?_, h.distinct⟩
      obtain ⟨call, hca, heq⟩ := List.mem_map.mp hm
      have hs := hkn call hca
      rw [heq, fresh] at hs
      simp at hs
    · exact List.forall_mem_cons.mpr ⟨wellFormed, h.wellFormed⟩
    · exact List.forall_mem_cons.mpr ⟨ha, h.preceded⟩
    · exact List.forall_mem_cons.mpr ⟨ha, fun call hca =>
        (h.attempted call hca).mono writes.journaled.synced.subset⟩
    · rw [writes.requests]
      refine List.forall_mem_cons.mpr ⟨by simp, fun call hca => ?_⟩
      exact isSome_lookup_insert (hkn call hca)
  | @returned _ dispatch waiting cl =>
    obtain ⟨_, record, hw, -, -, -, hf, -⟩ := cl
    have hc : s'.venueCalls = s.venueCalls := congrArg FlightView.venueCalls hf
    refine h.of_same hc hw.journaled.synced (fun hd => ?_) fun key hk => ?_
    · rw [hd.idle] at waiting
      simp at waiting
    · rw [hw.requests]
      exact isSome_lookup_insert hk
  | @resolved _ key record known live cl =>
    obtain ⟨_, _, hw, -, -, hb, hf, -⟩ :=
      cl (.unresolved record.operation) (by simp [Stage.resolvable])
    refine h.of_same (congrArg FlightView.venueCalls hf) hw.journaled.synced
      (fun hd => hd.of_blocks (by simp) hb hf) fun key hk => ?_
    rw [hw.requests]
    exact isSome_lookup_insert hk
  | refused refused lasting =>
    refine h.of_same rfl ?_ (fun hd => ⟨rfl, lasting, hd.idle⟩) (fun _ h => h)
    rcases refused.spoils with hq | ⟨he, -⟩
    · exact hq.synced
    · exact he.synced
  | fenced al journaled ord sound fences rqs ows fl bks =>
    exact h.of_same (congrArg FlightView.venueCalls fl) journaled.synced
      (fun hd => hd.of_blocks (fun _ h => h) bks fl)
      (fun _ hk => by rw [rqs]; exact hk)
  | ended ap =>
    exact h.of_same rfl ap.enters.synced (fun hd => ⟨hd.blocked, hd.lasting, hd.idle⟩)
      (fun _ h => h)
  | forgot =>
    exact h.of_same rfl (prefix_refl _) (fun hd => ⟨hd.blocked, hd.lasting, hd.idle⟩) (fun _ h => h)
  | lifted al ap et blocked rs =>
    refine h.of_same rfl ap.enters.synced (fun hd => ?_) fun key hk => ?_
    · have hl := hd.not_clearable
      simp [isClearable, rs] at hl
    · change ((s.requests.mapValues resolveProjection).lookup key).isSome = true
      rw [UMap.lookup_mapValues, Option.isSome_map]
      exact hk
  | preflight =>
    exact h.of_same rfl (prefix_refl _) (fun hd => ⟨hd.blocked, hd.lasting, hd.idle⟩) (fun _ h => h)
  | reconnecting free =>
    refine h.of_same rfl (prefix_refl _) (fun hd => ?_) (fun _ h => h)
    simp [hd.blocked] at free
  | reconnected blocked rs =>
    refine h.of_same rfl (prefix_refl _) (fun hd => ?_) (fun _ h => h)
    have hl := hd.not_clearable
    simp [isClearable, rs] at hl
  | released certain rs =>
    refine h.of_same rfl (prefix_refl _) (fun hd => ?_) (fun _ h => h)
    have hl := hd.not_clearable
    simp [isClearable, rs] at hl
  | flushed quiet =>
    exact h.of_same rfl quiet.synced (fun hd => ⟨hd.blocked, hd.lasting, hd.idle⟩) (fun _ h => h)
  | recovered source synced ord sound mem fl =>
    refine h.of_recovered (congrArg FlightView.venueCalls fl) ?_ synced mem
    rw [synced]
    rcases source with ⟨hr, -⟩ | hr <;> rw [hr]
    · exact synced_subset_records _
    · exact List.Subset.refl _
  | unrecovered fault source ord lasting mem fl =>
    have hy : s.journal.synced <+: s'.journal.synced := by
      rcases source with ⟨hq, -⟩ | hq
      · exact hq.synced
      · exact hq.synced
    have hc : s'.venueCalls = s.venueCalls := congrArg FlightView.venueCalls fl
    have hds : s'.dispatches = [] := congrArg FlightView.dispatches fl
    refine ⟨hc ▸ h.distinct, hc ▸ h.wellFormed, hc ▸ h.preceded, fun call hm =>
      (h.attempted call (hc ▸ hm)).mono hy.subset, .inl ⟨?_, ?_, hds⟩⟩
    · rw [mem]
      rfl
    · rw [mem]
      exact lasting

/-- A call of the venue for the command with this identity. -/
def VenueCall.isFor (call : VenueCall) (agentId sessionId toolCallId : String) : Bool :=
  call.dispatch.context.agentId = agentId && call.dispatch.context.sessionId = sessionId &&
    call.dispatch.context.toolCallId = toolCallId

/-- Every command causes at most one venue call over a whole run, and its send attempt is synced
before the call. -/
theorem venueCalls_at_most_once (S : Service) (hsync : S.config.syncCritical = true)
    (actions : List Action) :
    (∀ agentId sessionId toolCallId,
      ((run S actions).venueCalls.filter (·.isFor agentId sessionId toolCallId)).length ≤ 1) ∧
    ∀ call ∈ (run S actions).venueCalls, ∃ e ∈ call.syncedBefore,
      e.eventType = call.dispatch.sendAttempt ∧ e.agentId = call.dispatch.context.agentId ∧
        e.traceId = call.dispatch.context.sessionId ∧
        e.commandId = call.dispatch.context.toolCallId := by
  have hs : Accounted {} := ⟨by simp, by simp, by simp, by simp, .inr (by simp)⟩
  obtain ⟨-, -, h⟩ := run_invariant (P := Accounted) hs
    (fun _ _ h hv => hv.accounted hsync h) (meets_unrestricted S {} actions)
  constructor
  · intro agentId sessionId toolCallId
    -- all calls of one command run under one key, and the keys are distinct
    let keys := ((run S actions).venueCalls.filter (·.isFor agentId sessionId toolCallId)).map
      fun call => call.dispatch.requestKey
    have hsm : keys = List.replicate keys.length (requestKey agentId sessionId toolCallId) := by
      refine eq_replicate_of_mem fun key hk => ?_
      obtain ⟨call, hc, rfl⟩ := List.mem_map.mp hk
      obtain ⟨hm, hf⟩ := List.mem_filter.mp hc
      simp only [VenueCall.isFor, Bool.and_eq_true, decide_eq_true_eq] at hf
      rw [(h.wellFormed call hm).requestKey, AgentExecutionContext.requestKey, hf.1.1, hf.1.2, hf.2]
    have hd : keys.Nodup := h.distinct.sublist (List.filter_sublist.map _)
    rw [hsm, nodup_replicate] at hd
    simpa [keys] using hd
  · intro call hm
    obtain ⟨e, he, ht, hb⟩ := h.preceded call hm
    have hi := hb.identity
    simp only [OmsJournalEvent.identity, RequestRecord.identity, CommandIdentity.mk.injEq,
      call.dispatch.pending_context] at hi
    exact ⟨e, he, ht, hi.1, hi.2.1, hi.2.2.1⟩

/-- A placement whose answer is lost in a crash is not sent again. -/
theorem venueCalls_retried_placement :
    (run sampleService [.placeOrder (samplePlacement "p") none {} {}, .restart {},
      .placeOrder (samplePlacement "p") none {} {}]).venueCalls.length = 1 ∧
    ((run sampleService [.placeOrder (samplePlacement "p") none {} {}, .restart {},
      .placeOrder (samplePlacement "p") none {} {}]).venueCalls.filter
        (·.isFor "agent" "session" "p")).length ≤ 1 :=
  ⟨by decide +kernel, (venueCalls_at_most_once sampleService rfl
    [.placeOrder (samplePlacement "p") none {} {}, .restart {},
      .placeOrder (samplePlacement "p") none {} {}]).1 "agent" "session" "p"⟩

end Hepta
