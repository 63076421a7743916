import Hepta.Execution.Move

/-!
# Coherence

Every move keeps the parts of the service together: a command at the venue has its pending
record, records stand under their own keys, and no record of the journal is anonymous.
-/

namespace Hepta

open Coordinator List OmsJournal RequestRecord Finmap

variable {S : Service} {A : Allowance} {s s' : System} {e : OmsJournalEvent}

/-! ### Identities -/

lemma identity_context {record base : RequestRecord} (h : record.identity = base.identity) :
    record.context.requestKey = base.context.requestKey ∧
      record.context.identified = base.context.identified := by
  simp only [RequestRecord.identity, CommandIdentity.mk.injEq] at h
  obtain ⟨ha, hs, ht, -⟩ := h
  simp [AgentExecutionContext.requestKey, AgentExecutionContext.identified, ha, hs, ht]

lemma sessionId_ne_empty {context : AgentExecutionContext} (h : context.identified = true) :
    context.sessionId ≠ "" := by
  simp only [AgentExecutionContext.identified, Bool.and_eq_true, decide_eq_true_eq] at h
  exact h.2

lemma OmsJournalEvent.Belongs.traceId {base : RequestRecord}
    (h : e.Belongs base) (hi : base.context.identified = true) : e.traceId ≠ "" := by
  have ht : e.traceId = base.context.sessionId := congrArg CommandIdentity.sessionId h.identity
  exact ht ▸ sessionId_ne_empty hi

lemma Dispatch.pending_context (d : Dispatch) : d.pending.context = d.context := by
  cases d <;> rfl

lemma Dispatch.pending_inert (d : Dispatch) : d.pending.inert := by
  cases d <;> exact inert_of_reasonCode rfl

/-! ### The memory after a stretch of work -/

variable {key : String} {base record : RequestRecord} {start : RequestRecord → Prop} {stage : Stage}
  {events : List OmsJournalEvent}

lemma Writes.rooted (hw : Writes S A key base start stage s events record s') (h : Rooted S s)
    (hi : Indexes key s events s') (hy : base.context.requestKey = key)
    (hd : base.context.identified = true) : Rooted S s' where
  ordered := hw.ordered
  keyed key' record' hr' := by
    rw [hw.requests] at hr'
    by_cases hk : key' = key
    · subst hk
      rw [lookup_insert, Option.some.injEq] at hr'
      subst hr'
      rw [(identity_context hw.identity).1, (identity_context hw.identity).2]
      exact ⟨hy, hd⟩
    · rw [lookup_insert_of_ne _ hk] at hr'
      exact h.keyed key' record' hr'
  owned orderId owner howner := by
    rcases hw.ownership orderId owner howner with howner | ha
    · exact h.owned orderId owner howner
    · exact ha ▸ agentId_ne_empty hd
  named e he hc := by
    rcases hw.journaled.mem_records.mp he with he | he
    · exact (hw.belongs e he).traceId hd
    · exact h.named e he hc
  indexed key' hy' := by
    rw [hw.requests]
    by_cases hk : key' = key
    · subst hk
      simp
    · rw [lookup_insert_of_ne _ hk]
      exact h.indexed key' (Finset.mem_of_mem_insert_of_ne (hi.keys hy') hk)

/-- The commands at the venue do not notice what leaves their records alone. -/
lemma Coherent.of_rooted (h : Coherent S s) (hr : Rooted S s')
    (hf : s'.flightView = s.flightView)
    (hp : ∀ dispatch ∈ s.dispatches, s'.requests.lookup dispatch.requestKey =
      s.requests.lookup dispatch.requestKey) : Coherent S s' := by
  have hd : s'.dispatches = s.dispatches := congrArg FlightView.dispatches hf
  have hc : s'.venueDispatchesInFlight = s.venueDispatchesInFlight :=
    congrArg FlightView.venueDispatchesInFlight hf
  have hpr : s'.preflights = s.preflights := congrArg FlightView.preflights hf
  refine ⟨hr, ?_, ?_, ?_, ?_⟩
  · rw [hc, hd, h.inFlight]
  · intro dispatch hm
    rw [hd] at hm
    rw [hp dispatch hm]
    exact h.pending dispatch hm
  · rw [hd]
    exact h.distinct
  · rw [hpr]
    exact h.preflights

lemma Writes.coherent (hw : Writes S A key base start stage s events record s') (h : Coherent S s)
    (hk : base.context.requestKey = key) (hd : base.context.identified = true)
    (hf : s'.flightView = s.flightView) (hi : Indexes key s events s')
    (ho : ∀ dispatch ∈ s.dispatches, dispatch.requestKey ≠ key) : Coherent S s' :=
  h.of_rooted (hw.rooted h.toRooted hi hk hd) hf fun dispatch hm => by
    rw [hw.requests, lookup_insert_of_ne _ (ho dispatch hm)]

/-- A new command is not at the venue. -/
lemma Coherent.ne_of_fresh (h : Coherent S s) (hf : s.requests.lookup key = none) :
    ∀ dispatch ∈ s.dispatches, dispatch.requestKey ≠ key := by
  rintro dispatch hm rfl
  simp [(h.pending dispatch hm).1] at hf

/-- Neither is a command in doubt. -/
lemma Coherent.ne_of_live (h : Coherent S s) (hk : s.requests.lookup key = some record)
    (hl : ¬ record.inert) : ∀ dispatch ∈ s.dispatches, dispatch.requestKey ≠ key := by
  rintro dispatch hm rfl
  rw [(h.pending dispatch hm).1, Option.some.injEq] at hk
  exact hl (hk ▸ dispatch.pending_inert)

/-- The service with one venue call less. -/
lemma Coherent.callReturned (h : Coherent S s) {d : Dispatch}
    (hm : d ∈ s.dispatches) :
    Coherent S (s.callReturned d) ∧
      ∀ other ∈ (s.callReturned d).dispatches, other.requestKey ≠ d.requestKey := by
  have hp := perm_cons_erase hm
  have hd := (hp.map Dispatch.requestKey).nodup_iff.mp h.distinct
  rw [map_cons, nodup_cons] at hd
  refine ⟨⟨⟨h.ordered, h.keyed, h.owned, h.named, h.indexed⟩, ?_, ?_, hd.2, h.preflights⟩, ?_⟩
  · simp only [System.callReturned, System.venueReturned, h.inFlight, length_erase_of_mem hm]
  · exact fun other ho => h.pending other (mem_of_mem_erase ho)
  · intro other ho heq
    exact hd.1 (heq ▸ mem_map_of_mem ho)

/-! ### The moves -/

/-- The journal changes and nothing of the memory with it. -/
lemma Rooted.of_journal (h : Rooted S s) (ho : Ordered S.config s'.journal)
    (hr : s'.requests = s.requests) (hi : s'.sendIndex = s.sendIndex)
    (hw : ∀ orderId owner, s'.orderOwners.lookup orderId = some owner →
      s.orderOwners.lookup orderId = some owner)
    (hnamed : ∀ e ∈ s'.journal.records, e.isCommand = true → e.traceId ≠ "") : Rooted S s' :=
  ⟨ho, hr ▸ h.keyed, fun orderId owner hon => h.owned orderId owner (hw _ _ hon),
    hnamed, by
      rw [hr, show s'.placeSendAttemptKeys = s.placeSendAttemptKeys from congrArg Prod.fst hi]
      exact h.indexed⟩

lemma isCommand_of_eventType (h : e.eventType.isCommand = false) : e.isCommand = false := by
  simp [OmsJournalEvent.isCommand, h]

lemma isCommand_of_isFence {et : EventType} (h : et.isFence = true) : et.isCommand = false := by
  cases et <;> simp_all [EventType.isFence, EventType.isCommand]

lemma resolveProjection_pending (d : Dispatch) :
    resolveProjection d.pending = d.pending := by
  cases d <;> rfl

lemma Refused.mem_records {b : OmsJournalEvent} {j j' : OmsJournal} (h : Refused S A e j j')
    (hb : b ∈ j'.records) : b = e ∨ b ∈ j.records := by
  rcases h.spoils with hq | ⟨he, -⟩
  · exact .inr (hq.records ▸ hb)
  · exact he.mem_records.mp hb

lemma synced_sublist_records (j : OmsJournal) : j.synced.Sublist j.records := by
  rw [OmsJournal.records, OmsJournal.written, append_assoc]
  exact sublist_append_left _ _

lemma synced_subset_records (j : OmsJournal) : j.synced ⊆ j.records :=
  (synced_sublist_records j).subset

lemma rooted_recovered (ho : Ordered S.config s'.journal)
    (hm : s'.toCoordinator = Coordinator.recovered s'.journal.records)
    (hnamed : ∀ e ∈ s'.journal.records, e.isCommand = true → e.traceId ≠ "") : Rooted S s' := by
  refine ⟨ho, fun key record hr => ?_, fun orderId owner hw => ?_, hnamed, fun key hk => ?_⟩
  · rw [hm, requests_recovered] at hr
    exact keyed_replay hnamed hr
  · rw [hm, orderOwners_recovered] at hw
    exact owned_replay _ hw
  · have hi : s'.sendIndex = (Coordinator.replay s'.journal.records).sendIndex :=
      (congrArg Coordinator.sendIndex hm).trans (sendIndex_recovered _)
    rw [show s'.placeSendAttemptKeys = _ from congrArg Prod.fst hi] at hk
    rw [hm, requests_recovered]
    exact indexed_replay _ hk

/-- The service after a restart of the process or of its memory. -/
lemma Coherent.of_restart (h : Coherent S s) (hr : Rooted S s')
    (hf : s'.flightView = ⟨[], 0, s.venueCalls, s'.preflights, ∅⟩)
    (hp : s'.preflights ⊆ s.preflights) : Coherent S s' := by
  have hd : s'.dispatches = [] := congrArg FlightView.dispatches hf
  have hc : s'.venueDispatchesInFlight = 0 :=
    congrArg FlightView.venueDispatchesInFlight hf
  refine ⟨hr, ?_, ?_, ?_, ?_⟩
  · rw [hc, hd]
    rfl
  · simp [hd]
  · simp [hd]
  · exact fun c hm => h.preflights c (hp hm)

/-- Every move keeps the service coherent. -/
theorem Move.coherent (h : Coherent S s) (hv : Move S A s s') : Coherent S s' := by
  cases hv with
  | opened fresh identified cl =>
    obtain ⟨events, record, hw, -, -, -, hf, hi⟩ := cl
    exact hw.coherent h rfl identified hf hi (h.ne_of_fresh fresh)
  | @dispatched _ d events fresh wellFormed writes attempted durable fl block admitted
      exclusive indexes =>
    have hcn := d.pending_context
    have hk : d.pending.context.requestKey = d.requestKey := by
      rw [hcn, wellFormed.requestKey]
    have hid : d.pending.context.identified = true := by
      rw [hcn, wellFormed.identified]
    have hr := writes.rooted h.toRooted indexes hk hid
    have hd : s'.dispatches = d :: s.dispatches :=
      congrArg FlightView.dispatches fl
    have hct : s'.venueDispatchesInFlight = s.venueDispatchesInFlight + 1 :=
      congrArg FlightView.venueDispatchesInFlight fl
    have hp : s'.preflights = s.preflights := congrArg FlightView.preflights fl
    refine ⟨hr, ?_, ?_, ?_, hp ▸ h.preflights⟩
    · rw [hct, hd, h.inFlight]
      rfl
    · intro other hm
      rw [writes.requests]
      rw [hd] at hm
      rcases List.mem_cons.mp hm with rfl | hm
      · exact ⟨lookup_insert _, wellFormed⟩
      · rw [lookup_insert_of_ne _ (h.ne_of_fresh fresh other hm)]
        exact h.pending other hm
    · rw [hd, map_cons, nodup_cons]
      refine ⟨fun hm => ?_, h.distinct⟩
      obtain ⟨other, hother, heq⟩ := List.mem_map.mp hm
      exact h.ne_of_fresh fresh other hother heq
  | @returned _ d waiting cl =>
    obtain ⟨_, record, hw, -, -, -, hf, hi⟩ := cl
    obtain ⟨hrt, hother⟩ := h.callReturned waiting
    have hl := (h.pending d waiting).2
    refine hw.coherent hrt ?_ ?_ hf hi hother
    · rw [d.pending_context, hl.requestKey]
    · rw [d.pending_context, hl.identified]
  | @resolved _ key record known live cl =>
    obtain ⟨_, _, hw, -, -, -, hf, hi⟩ :=
      cl (.unresolved record.operation) (by simp [Stage.resolvable])
    obtain ⟨hk, hid⟩ := h.keyed key record known
    exact hw.coherent h hk hid hf hi (h.ne_of_live known live)
  | @refused e j' reason refused la resolution =>
    refine h.of_rooted (h.toRooted.of_journal refused.ordered rfl rfl (fun _ _ h => h) ?_) rfl
      (fun _ _ => rfl)
    intro b hb hc
    rcases refused.mem_records hb with rfl | hb
    · obtain ⟨record, hkn, -, hbl, -⟩ := resolution hc
      exact hbl.traceId (h.keyed _ record hkn).2
    · exact h.named b hb hc
  | fenced al journaled ord sound fences rqs ows fl bks ix =>
    refine h.of_rooted (h.toRooted.of_journal ord rqs ix (by rw [ows]; exact fun _ _ h => h)
      ?_) fl (fun _ _ => by rw [rqs])
    intro b hb hc
    rcases journaled.mem_records.mp hb with hb | hb
    · have ht := isCommand_of_eventType (isCommand_of_isFence (fences b hb).isFence)
      simp [ht] at hc
    · exact h.named b hb hc
  | ended ap et =>
    refine h.of_rooted (h.toRooted.of_journal ap.ordered rfl rfl
      (fun _ _ => lookup_of_lookup_erase) ?_) rfl (fun _ _ => rfl)
    intro b hb hc
    rcases ap.enters.mem_records.mp hb with rfl | hb
    · have ht := isCommand_of_eventType (e := b) (by rw [et]; rfl)
      simp [ht] at hc
    · exact h.named b hb hc
  | forgot =>
    exact h.of_rooted (h.toRooted.of_journal h.ordered rfl rfl
      (fun _ _ => lookup_of_lookup_erase) h.named) rfl (fun _ _ => rfl)
  | lifted al ap et =>
    refine h.of_rooted ⟨ap.ordered, ?_, h.owned, ?_, ?_⟩ rfl ?_
    · intro key record hrc
      obtain ⟨known, hkn, rfl⟩ := Option.map_eq_some_iff.mp
        ((UMap.lookup_mapValues _ _ _).symm.trans hrc)
      simpa using h.keyed key known hkn
    · intro b hb hc
      rcases ap.enters.mem_records.mp hb with rfl | hb
      · have ht := isCommand_of_eventType (e := b) (by rw [et]; rfl)
        simp [ht] at hc
      · exact h.named b hb hc
    · intro key hk
      have hkn : (Option.map resolveProjection (s.requests.lookup key)).isSome = true := by
        rw [Option.isSome_map]
        exact h.indexed key hk
      exact (congrArg Option.isSome (UMap.lookup_mapValues _ _ _)).trans hkn
    · intro d hm
      refine (UMap.lookup_mapValues _ _ _).trans ?_
      rw [(h.pending d hm).1, Option.map_some, resolveProjection_pending]
  | preflight admitted =>
    refine ⟨⟨h.ordered, h.keyed, h.owned, h.named, h.indexed⟩, h.inFlight, h.pending,
      h.distinct, ?_⟩
    exact fun c hm => (admitted c hm).elim (h.preflights c) id
  | reconnecting | reconnected | released =>
    exact h.of_rooted (h.toRooted.of_journal h.ordered rfl rfl (fun _ _ h => h) h.named) rfl
      (fun _ _ => rfl)
  | flushed quiet ord =>
    refine h.of_rooted (h.toRooted.of_journal ord rfl rfl (fun _ _ h => h) ?_) rfl (fun _ _ => rfl)
    exact fun b hb => h.named b (quiet.records ▸ hb)
  | recovered source synced ord sound mem fl pfs =>
    refine h.of_restart (rooted_recovered ord mem fun b hb => h.named b ?_) fl pfs
    rcases source with ⟨he, -⟩ | he <;> rw [he] at hb
    · exact hb
    · exact synced_subset_records _ hb
  | unrecovered fault source ord la mem fl pfs =>
    refine h.of_restart ⟨ord, ?_, ?_, fun b hb => h.named b ?_, ?_⟩ fl pfs
    · intro key record hrc
      rw [mem] at hrc
      simp [Coordinator.block] at hrc
    · intro orderId owner ho
      rw [mem] at ho
      simp [Coordinator.block] at ho
    · rcases source with ⟨hq, -⟩ | hq <;> rw [hq.records] at hb
      · exact hb
      · rw [afterCrash_records] at hb
        exact synced_subset_records _ hb
    · intro key hk
      rw [mem] at hk
      simp [Coordinator.block] at hk

/-- Appends fail only in runs that allow it. -/
def Intact (A : Allowance) (s : System) : Prop := A.fault ∨ s.journal.writePoisoned = false

/-- The writer stays usable in runs without faults. -/
theorem Move.intact (h : Intact A s) (hm : Move S A s s') : Intact A s' := by
  cases hm with
  | opened _ _ cl =>
    obtain ⟨_, _, hw, -⟩ := cl
    exact hw.agrees.imp_right And.left
  | dispatched _ _ ws => exact ws.agrees.imp_right And.left
  | returned _ cl =>
    obtain ⟨_, _, hw, -⟩ := cl
    exact hw.agrees.imp_right And.left
  | @resolved _ key record known live cl =>
    obtain ⟨_, _, hw, -⟩ := cl (.unresolved record.operation) (by simp [Stage.resolvable])
    exact hw.agrees.imp_right And.left
  | refused refused => exact .inl refused.fault
  | fenced _ _ _ sound => exact sound
  | ended ap => exact .inr ap.soundAfter
  | lifted _ ap => exact .inr ap.soundAfter
  | forgot | preflight | reconnecting | reconnected | released => exact h
  | flushed _ _ sound => exact sound
  | recovered _ _ _ sound => exact .inr sound
  | unrecovered fault => exact .inl fault

end Hepta
