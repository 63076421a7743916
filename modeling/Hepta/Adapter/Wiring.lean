import Hepta.Adapter.Frame

/-!
# The adapter and its wrapper

What holds between the two in every run: the events of the queue are of the connection of the adapter,
so that none is passed over as one of another connection, and a loss is reported before anything else
is taken from the queue.
-/

namespace Hepta

open IBAuthoritativeEventQueue

namespace Api

variable {api : Api} {c : Callback} {e : IBEvent}

/-- What a callback adds to the queue. -/
def delivered (api : Api) (c : Callback) : Option IBEvent := (api.receive c).1.map api.stamp

lemma receive_connectionEpoch : (api.receive c).2.connectionEpoch = api.connectionEpoch := by
  cases c <;> simp only [receive, accountUpdateMultiEnd, positionMultiEnd, connectionClosed] <;>
    (try split_ifs) <;> rfl

lemma receive_account : (api.receive c).2.account = api.account := by
  cases c <;> simp only [receive, accountUpdateMultiEnd, positionMultiEnd, connectionClosed] <;>
    (try split_ifs) <;> rfl

lemma receive_connected (h : (api.receive c).2.connected = true) : api.connected = true := by
  cases c <;> simp only [receive, accountUpdateMultiEnd, positionMultiEnd, connectionClosed] at h <;>
    (try split_ifs at h) <;> simp_all

lemma receive_queue : (api.receive c).2.queue = api.queue ∨
    (api.receive c).1 = none ∧
      (api.receive c).2.queue = api.queue.recordDroppedEvent api.connectionEpoch := by
  cases c <;> simp only [receive, accountUpdateMultiEnd, positionMultiEnd, connectionClosed] <;>
    (try split_ifs) <;> simp

lemma callback_queue : (∃ e, api.delivered c = some e ∧ (api.callback c).queue = api.queue.push e) ∨
    (api.delivered c = none ∧ ((api.callback c).queue = api.queue ∨
      (api.callback c).queue = api.queue.recordDroppedEvent api.connectionEpoch)) := by
  have hq := @receive_queue api c
  have hepoch := @receive_connectionEpoch api c
  unfold delivered callback
  cases hr : api.receive c with
  | mk et api' =>
    rw [hr] at hq hepoch
    cases et with
    | none => exact .inr ⟨rfl, hq.imp id And.right⟩
    | some e =>
      have hm : api'.queue = api.queue := by simpa using hq
      have hs : api'.stamp e = api.stamp e := by
        simp only at hepoch
        simp only [stamp, hepoch]
      refine .inl ⟨api.stamp e, rfl, ?_⟩
      simp only [pushEvent, hs, hm]

lemma callback_eq (field : Api → β) (h : ∀ api queue, field { api with queue } = field api) :
    field (api.callback c) = field (api.receive c).2 := by
  unfold callback
  cases api.receive c with
  | mk et =>
    cases et with
    | none => rfl
    | some => exact h ..

lemma receive_epoch (h : (api.receive c).1 = some e) : e.connectionEpoch = 0 := by
  cases c with
  | updateAccountValue =>
    simp only [receive, Option.some.injEq] at h
    subst h
    rfl
  | accountUpdateMulti =>
    simp only [receive, accountUpdateMulti] at h
    split_ifs at h
    cases h
    rfl
  | accountUpdateMultiEnd =>
    simp only [receive, accountUpdateMultiEnd] at h
    split_ifs at h
    cases h
    rfl
  | positionMulti =>
    simp only [receive, positionMulti] at h
    split at h
    · cases h
    · split_ifs at h <;> cases h <;> rfl
  | positionMultiEnd =>
    simp only [receive, positionMultiEnd] at h
    split_ifs at h
    cases h
    rfl
  | connectionClosed =>
    simp only [receive, Option.some.injEq] at h
    subst h
    rfl
  | dropped => simp [receive] at h
  | other e' he =>
    simp only [receive, Option.some.injEq] at h
    subst h
    exact he.2.2.2

lemma delivered_epoch (h : api.delivered c = some e) : e.connectionEpoch = api.connectionEpoch := by
  simp only [delivered, Option.map_eq_some_iff] at h
  obtain ⟨_, hr, rfl⟩ := h
  simp [stamp, receive_epoch hr]

end Api

namespace IBAuthoritativeEventQueue

variable {q : IBAuthoritativeEventQueue}

/-- No event was lost without a report. -/
def lossless (q : IBAuthoritativeEventQueue) : Prop :=
  q.overflowGeneration ≤ q.reportedOverflowGeneration

lemma mem_push {e e' : IBEvent} (h : e' ∈ (q.push e).events) : e' ∈ q.events ∨ e' = e := by
  unfold push at h
  simp only at h
  split_ifs at h
  · rcases List.mem_append.mp h with h | h
    · exact .inl (List.mem_of_mem_tail h)
    · exact .inr (List.mem_singleton.mp h)
  · rcases List.mem_append.mp h with h | h
    · exact .inl h
    · exact .inr (List.mem_singleton.mp h)

lemma push_latest (e : IBEvent) :
    (q.push e).latestConnectionEpoch = max q.latestConnectionEpoch e.connectionEpoch := by
  unfold push
  simp only
  split_ifs <;> rfl

lemma push_reported (e : IBEvent) :
    (q.push e).reportedOverflowGeneration = q.reportedOverflowGeneration := by
  unfold push
  simp only
  split_ifs <;> rfl

lemma push_overflow (e : IBEvent) : q.overflowGeneration ≤ (q.push e).overflowGeneration := by
  unfold push
  simp only
  split_ifs
  · exact Nat.le_succ _
  · exact le_rfl

/-- As long as nothing is lost an event is added at the end. -/
lemma push_events {e : IBEvent} (hr : q.reportedOverflowGeneration ≤ q.overflowGeneration)
    (h : (q.push e).lossless) : q.lossless ∧ (q.push e).events = q.events ++ [e] := by
  unfold push lossless at h
  simp only at h
  unfold push lossless
  simp only
  split_ifs at h ⊢
  · simp only at h
    omega
  · exact ⟨h, rfl⟩

lemma tryDequeueEvent_spec {e : IBEvent} {q' : IBAuthoritativeEventQueue}
    (h : q.tryDequeueEvent = some (e, q')) :
    (e.type = .eventQueueOverflow ∧ e.connectionEpoch = q.latestConnectionEpoch ∧
      q' = { q with reportedOverflowGeneration := q.overflowGeneration } ∧ ¬q.lossless) ∨
      (q.lossless ∧ q.events = e :: q'.events ∧ q' = { q with events := q'.events }) := by
  unfold tryDequeueEvent at h
  split_ifs at h with hl
  · simp only [Option.some.injEq, Prod.mk.injEq] at h
    obtain ⟨rfl, rfl⟩ := h
    exact .inl ⟨rfl, rfl, rfl, by unfold lossless; omega⟩
  · split at h
    · cases h
    rename_i head rest he
    simp only [Option.some.injEq, Prod.mk.injEq] at h
    obtain ⟨rfl, rfl⟩ := h
    exact .inr ⟨by unfold lossless; omega, he, rfl⟩

end IBAuthoritativeEventQueue

namespace HeptaIBGatewayAdapter

variable {a b : HeptaIBGatewayAdapter} {queue : IBAuthoritativeEventQueue}

/-- The wrapper belongs to the connection of the adapter. -/
structure WiredTo (a : HeptaIBGatewayAdapter) (api : Api) : Prop where
  connectionEpoch : api.connectionEpoch = a.connectionEpoch
  latest : api.queue.latestConnectionEpoch = 0 ∨
    api.queue.latestConnectionEpoch = a.connectionEpoch
  reported : api.queue.reportedOverflowGeneration ≤ api.queue.overflowGeneration
  events : ∀ e ∈ api.queue.events, a.current e
  account : api.connected = true → api.account = a.cfg.account
  connected : api.connected = true → a.connectionEpoch ≠ 0

structure Wired (a : HeptaIBGatewayAdapter) : Prop where
  api : ∀ api, a.api = some api → a.WiredTo api
  attempted : a.apiConnectAttempted = false → a.connectionEpoch = 0

lemma wired_init (cfg : HeptaIBConfig) (mx : Option ℕ) : Wired (init cfg mx) where
  api := by
    intro api ha
    simp only [init, Option.map_eq_some_iff] at ha
    obtain ⟨n, -, rfl⟩ := ha
    exact ⟨rfl, .inl rfl, le_rfl, by simp [Api.rebuilt], by simp [Api.rebuilt], by simp [Api.rebuilt]⟩
  attempted _ := rfl

/-- The wiring is about a few fields only. -/
lemma WiredTo.of_eq {api api' : Api} (h : a.WiredTo api) (hf : b.cfg.account = a.cfg.account)
    (hepoch : b.connectionEpoch = a.connectionEpoch)
    (hp : api'.connectionEpoch = api.connectionEpoch) (hq : api'.queue = api.queue)
    (ha : api'.account = api.account)
    (hcn : api'.connected = true → api.connected = true) : b.WiredTo api' where
  connectionEpoch := by rw [hp, hepoch, h.connectionEpoch]
  latest := by
    rw [hq, hepoch]
    exact h.latest
  reported := by
    rw [hq]
    exact h.reported
  events := by
    intro e he
    rw [hq] at he
    have hr := h.events e he
    unfold current at hr ⊢
    rwa [hepoch]
  account hc := by rw [ha, hf, h.account (hcn hc)]
  connected hc := by
    rw [hepoch]
    exact h.connected (hcn hc)

/-- The wrapper is the same apart from what was passed to the broker. -/
lemma Wired.of_silent (h : a.Wired) (hc : b.cfg.account = a.cfg.account)
    (he : b.connectionEpoch = a.connectionEpoch)
    (hat : b.apiConnectAttempted = a.apiConnectAttempted)
    (ht : b.api.map Api.silent = a.api.map Api.silent) : b.Wired where
  api := by
    intro api' ha'
    rw [ha'] at ht
    obtain ⟨api, ha, hs⟩ := Option.map_eq_some_iff.mp ht.symm
    have hf {β : Type} (field : Api → β) (hf : ∀ api, field api.silent = field api) :
        field api' = field api := by
      rw [← hf api', ← hf api, hs]
    apply (h.api api ha).of_eq hc he
    · exact hf Api.connectionEpoch fun _ => rfl
    · exact hf Api.queue fun _ => rfl
    · exact hf Api.account fun _ => rfl
    · rw [hf Api.connected fun _ => rfl]
      exact id
  attempted hb := by
    rw [he]
    exact h.attempted (hat ▸ hb)

lemma Wired.frame (h : a.Wired) (hf : Frame a b) : b.Wired :=
  h.of_silent (by rw [hf.cfg]) hf.connectionEpoch hf.attempted hf.transport

/-! ### Taking an event -/

def withQueue (a : HeptaIBGatewayAdapter) (api : Api) (queue : IBAuthoritativeEventQueue) :
    HeptaIBGatewayAdapter :=
  { a with api := some { api with queue } }

lemma dequeueTurn_spec (a : HeptaIBGatewayAdapter) : a.dequeueTurn = (true, a) ∨
    ∃ api queue e, a.api = some api ∧ a.dequeueTurn = (a.withQueue api queue).takeEvent e ∧
      ((e.type = .eventQueueOverflow ∧ e.connectionEpoch = api.queue.latestConnectionEpoch ∧
          queue = { api.queue with reportedOverflowGeneration := api.queue.overflowGeneration } ∧
          ¬api.queue.lossless) ∨
        (api.queue.lossless ∧ api.queue.events = e :: queue.events ∧
          queue = { api.queue with events := queue.events })) := by
  unfold dequeueTurn popEvent
  cases ha : a.api with
  | none => exact .inl rfl
  | some api =>
    cases hd : api.queue.tryDequeueEvent with
    | none => exact .inl (by simp [hd])
    | some entry =>
      obtain ⟨e, queue⟩ := entry
      exact .inr ⟨api, queue, e, rfl, by simp [hd, withQueue],
        tryDequeueEvent_spec hd⟩

/-- What a turn takes is of the connection of the adapter. -/
lemma Wired.current {api : Api} {e : IBEvent} (h : a.Wired) (ha : a.api = some api)
    (hc : e.connectionEpoch = api.queue.latestConnectionEpoch ∨ e ∈ api.queue.events) :
    (a.withQueue api queue).current e := by
  have hw := h.api api ha
  rcases hc with hl | hm
  · have h := hw.latest
    rw [← hl] at h
    exact h
  · exact hw.events e hm

lemma Wired.withQueue {api : Api} (h : a.Wired)
    (ha : a.api = some api) (hl : queue.latestConnectionEpoch = api.queue.latestConnectionEpoch)
    (hr : queue.reportedOverflowGeneration ≤ queue.overflowGeneration)
    (hv : ∀ e ∈ queue.events, e ∈ api.queue.events) : (a.withQueue api queue).Wired where
  api := by
    intro api' ha'
    obtain rfl : { api with queue } = api' := by simpa [HeptaIBGatewayAdapter.withQueue] using ha'
    have hw := h.api api ha
    exact ⟨hw.connectionEpoch, hl ▸ hw.latest, hr,
      fun e he => hw.events e (hv e he), hw.account, hw.connected⟩
  attempted := h.attempted

/-- The answers to the risk requests are about the risk snapshot and the barrier only. -/
def RiskOnly (a b : HeptaIBGatewayAdapter) : Prop := ∃ risk audit, b = { a with risk, audit }

variable (a)

lemma riskOnly_invalidateRiskSnapshot (reason : String) :
    RiskOnly a (a.invalidateRiskSnapshot reason) := ⟨_, _, rfl⟩

lemma riskOnly_completeCoherentRiskRefreshIfReady :
    RiskOnly a a.completeCoherentRiskRefreshIfReady := by
  unfold completeCoherentRiskRefreshIfReady
  split_ifs <;> exact ⟨_, _, rfl⟩

lemma riskOnly_monitorFxCashValue (e : IBEvent) : RiskOnly a (a.monitorFxCashValue e) := by
  unfold monitorFxCashValue monitorFxCashBalance
  simp only
  split_ifs
  all_goals first | exact ⟨_, _, rfl⟩ | (split <;> (try split_ifs) <;> exact ⟨_, _, rfl⟩)

lemma riskOnly_applyAccountValueRiskEvent (e : IBEvent) :
    RiskOnly a (a.applyAccountValueRiskEvent e) := by
  unfold applyAccountValueRiskEvent
  split_ifs
  · exact ⟨_, _, rfl⟩
  · exact ⟨_, _, rfl⟩
  · exact ⟨_, _, rfl⟩
  · exact riskOnly_monitorFxCashValue a e
  · exact ⟨_, _, rfl⟩

lemma riskOnly_applyPositionMonitorUpdate (e : IBEvent) :
    RiskOnly a (a.applyPositionMonitorUpdate e) := by
  unfold applyPositionMonitorUpdate
  simp only
  split_ifs <;> exact ⟨_, _, rfl⟩

lemma riskOnly_applyRiskSnapshotEvent (e : IBEvent) : RiskOnly a (a.applyRiskSnapshotEvent e) := by
  unfold applyRiskSnapshotEvent
  split
  · exact riskOnly_applyAccountValueRiskEvent a e
  · split_ifs
    · obtain ⟨risk, audit, h⟩ := riskOnly_completeCoherentRiskRefreshIfReady
        { a with risk := a.risk.completeAccount a.cfg a.connectionEpoch a.eventStreamAuthoritative }
      exact ⟨risk, audit, h⟩
    · exact ⟨_, _, rfl⟩
  · unfold applyPositionSnapshotItem
    split_ifs <;> exact ⟨_, _, rfl⟩
  · exact riskOnly_applyPositionMonitorUpdate a e
  · split_ifs
    · obtain ⟨risk, audit, h⟩ := riskOnly_completeCoherentRiskRefreshIfReady
        { a with risk := a.risk.completePositions a.connectionEpoch a.eventStreamAuthoritative }
      exact ⟨risk, audit, h⟩
    · exact ⟨_, _, rfl⟩
  · exact ⟨_, _, rfl⟩

variable {a}

lemma Wired.riskOnly (h : a.Wired) (hb : RiskOnly a b) : b.Wired := by
  obtain ⟨_, _, rfl⟩ := hb
  exact h.of_silent rfl rfl rfl rfl

lemma publishPositionEvent_eq (a : HeptaIBGatewayAdapter) (e : IBEvent) :
    RiskOnly a (a.publishPositionEvent e) := by
  unfold publishPositionEvent
  split_ifs <;> exact ⟨_, _, rfl⟩

lemma Wired.takeEvent {e : IBEvent} (h : a.Wired) (hc : a.current e) : (a.takeEvent e).2.Wired := by
  by_cases hr : Api.isRiskType e.type = true
  · rw [takeEvent_risk hc hr]
    exact h.riskOnly (riskOnly_applyRiskSnapshotEvent a e)
  · by_cases hp : e.type = .portfolioUpdate
    · rw [takeEvent_portfolioUpdate hc hp]
      exact h.riskOnly (publishPositionEvent_eq a e)
    · exact h.frame (frame_takeEvent (by simpa using hr) hp)

lemma Wired.dequeueTurn (h : a.Wired) : a.dequeueTurn.2.Wired := by
  rcases dequeueTurn_spec a with heq | ⟨api, queue, e, ha, heq, hc⟩
  · rw [heq]
    exact h
  have hr := (h.api api ha).reported
  rw [heq]
  rcases hc with ⟨-, hepoch, rfl, -⟩ | ⟨-, hv, hq⟩
  · apply (h.withQueue ha _ _ _).takeEvent (h.current ha (.inl hepoch))
    · rfl
    · exact le_rfl
    · exact fun _ he => he
  · apply (h.withQueue ha _ _ _).takeEvent (h.current ha (.inr (by simp [hv])))
    · rw [hq]
    · rw [hq]
      exact hr
    · intro e' he'
      rw [hv]
      exact List.mem_cons_of_mem e he'

/-! ### The other actions -/

lemma Wired.callback (h : a.Wired) (c : Api.Callback) : (a.step (.callback c)).Wired where
  api := by
    intro api' ha'
    obtain ⟨api, ha, rfl⟩ : ∃ api, a.api = some api ∧ api.callback c = api' := by
      simpa [step] using ha'
    have hw := h.api api ha
    have hf {β : Type} (field : Api → β) (hs : ∀ api queue, field { api with queue } = field api) :
        field (api.callback c) = field (api.receive c).2 := Api.callback_eq field hs
    refine ⟨?_, ?_, ?_, ?_, ?_, ?_⟩
    · rw [hf Api.connectionEpoch fun _ _ => rfl, Api.receive_connectionEpoch]
      exact hw.connectionEpoch
    · rcases @Api.callback_queue api c with
        ⟨e, hd, hq⟩ | ⟨-, hq | hq⟩
      · rw [hq, push_latest, Api.delivered_epoch hd, hw.connectionEpoch]
        rcases hw.latest with hl | hl <;> simp [hl, step]
      · rw [hq]
        exact hw.latest
      · simp only [hq, IBAuthoritativeEventQueue.recordDroppedEvent, hw.connectionEpoch]
        rcases hw.latest with hl | hl <;> simp [hl, step]
    · rcases @Api.callback_queue api c with ⟨e, -, hq⟩ | ⟨-, hq | hq⟩
      · rw [hq, push_reported]
        exact hw.reported.trans (push_overflow e)
      · rw [hq]
        exact hw.reported
      · rw [hq]
        exact hw.reported.trans (Nat.le_succ _)
    · intro e' he'
      rcases @Api.callback_queue api c with
        ⟨e, hd, hq⟩ | ⟨-, hq | hq⟩
      · rw [hq] at he'
        rcases mem_push he' with he' | rfl
        · exact hw.events e' he'
        · exact .inr ((Api.delivered_epoch hd).trans hw.connectionEpoch)
      · rw [hq] at he'
        exact hw.events e' he'
      · rw [hq] at he'
        exact hw.events e' he'
    · rw [hf Api.connected fun _ _ => rfl, hf Api.account fun _ _ => rfl,
        Api.receive_account]
      exact fun hc => hw.account (Api.receive_connected hc)
    · rw [hf Api.connected fun _ _ => rfl]
      exact fun hc => hw.connected (Api.receive_connected hc)
  attempted := h.attempted

/-- The wrapper apart from its requests. -/
structure SameWire (api api' : Api) : Prop where
  connectionEpoch : api'.connectionEpoch = api.connectionEpoch
  queue : api'.queue = api.queue
  account : api'.account = api.account
  connected : api'.connected = true → api.connected = true
  calls : api'.calls = api.calls

/-- A request changes the risk snapshot, the barrier and the requests of the wrapper. -/
def Requested (a b : HeptaIBGatewayAdapter) : Prop :=
  ∃ risk audit api', b = { a with risk, audit, api := api' } ∧
    ∀ x, api' = some x → ∃ api, a.api = some api ∧ SameWire api x

lemma RiskOnly.requested (h : RiskOnly a b) : Requested a b := by
  obtain ⟨risk, audit, rfl⟩ := h
  exact ⟨risk, audit, a.api, rfl, fun x hx => ⟨x, hx, rfl, rfl, rfl, id, rfl⟩⟩

lemma Requested.trans {c : HeptaIBGatewayAdapter} (h : Requested a b) (h' : Requested b c) :
    Requested a c := by
  obtain ⟨_, _, _, rfl, hw⟩ := h
  obtain ⟨risk', audit', api'', rfl, hw'⟩ := h'
  refine ⟨risk', audit', api'', rfl, ?_⟩
  intro x hx
  obtain ⟨y, hy, hyx⟩ := hw' x hx
  obtain ⟨api, hp, ha⟩ := hw y hy
  exact ⟨api, hp, hyx.connectionEpoch.trans ha.connectionEpoch,
    hyx.queue.trans ha.queue, hyx.account.trans ha.account,
    fun hc => ha.connected (hyx.connected hc), hyx.calls.trans ha.calls⟩

lemma Wired.requested (h : a.Wired) (hb : Requested a b) : b.Wired := by
  obtain ⟨_, _, _, rfl, hw⟩ := hb
  refine ⟨?_, h.attempted⟩
  intro x hx
  obtain ⟨api, ha, hs⟩ := hw x hx
  exact (h.api api ha).of_eq rfl rfl hs.connectionEpoch hs.queue hs.account hs.connected

lemma sameWire_reqAccountSummary (api : Api) : SameWire api api.reqAccountSummary.2 := by
  unfold Api.reqAccountSummary
  simp only
  split_ifs <;> exact ⟨rfl, rfl, rfl, id, rfl⟩

lemma sameWire_reqPositions (api : Api) : SameWire api api.reqPositions.2 := by
  unfold Api.reqPositions
  split_ifs <;> exact ⟨rfl, rfl, rfl, id, rfl⟩

variable (a)

lemma riskOnly_dropCoherence (coherent : Bool) :
    RiskOnly a (if coherent then a else { a with risk := a.risk.dropCoherence }) := by
  split_ifs <;> exact ⟨_, _, rfl⟩

lemma requested_reqAccountSummary (coherent : Bool) :
    Requested a (a.reqAccountSummary coherent).2 := by
  apply (riskOnly_dropCoherence a coherent).requested.trans
  unfold reqAccountSummary
  generalize (if coherent then a else { a with risk := a.risk.dropCoherence }) = b
  simp only
  split
  · exact RiskOnly.requested ⟨_, _, rfl⟩
  split
  · exact (riskOnly_invalidateRiskSnapshot b _).requested
  rename_i api hf
  have ha : b.api = some api := (Option.filter_eq_some_iff.mp hf).1
  split
  · exact (riskOnly_invalidateRiskSnapshot b _).requested
  · split <;> exact ⟨_, _, _, rfl, fun x hx => ⟨api, ha, Option.some.inj hx ▸
      sameWire_reqAccountSummary api⟩⟩

lemma requested_reqPositions (coherent : Bool) : Requested a (a.reqPositions coherent).2 := by
  apply (riskOnly_dropCoherence a coherent).requested.trans
  unfold reqPositions
  generalize (if coherent then a else { a with risk := a.risk.dropCoherence }) = b
  simp only
  split
  · exact RiskOnly.requested ⟨_, _, rfl⟩
  split
  · exact (riskOnly_invalidateRiskSnapshot b _).requested
  rename_i api hf
  have ha : b.api = some api := (Option.filter_eq_some_iff.mp hf).1
  split
  · exact (riskOnly_invalidateRiskSnapshot b _).requested
  · split <;> exact ⟨_, _, _, rfl, fun x hx => ⟨api, ha, Option.some.inj hx ▸
      sameWire_reqPositions api⟩⟩

lemma requested_beginCoherentRiskRefresh (audit : Bool) :
    Requested a (a.beginCoherentRiskRefresh audit).2 := by
  have hm : Requested a (a.markCoherentRefresh audit) := RiskOnly.requested ⟨_, _, rfl⟩
  have ha := hm.trans (requested_reqAccountSummary (a.markCoherentRefresh audit) true)
  unfold beginCoherentRiskRefresh
  split
  · exact RiskOnly.requested ⟨_, _, rfl⟩
  split
  · exact (riskOnly_invalidateRiskSnapshot a _).requested
  simp only
  split
  · exact ha.trans (RiskOnly.requested ⟨_, _, rfl⟩)
  have hp := ha.trans (requested_reqPositions _ true)
  split
  · exact hp.trans (riskOnly_invalidateRiskSnapshot _ _).requested
  · exact hp

lemma requested_reqRecoveryAuditRiskRefresh : Requested a a.reqRecoveryAuditRiskRefresh.2 := by
  unfold reqRecoveryAuditRiskRefresh
  split
  · exact RiskOnly.requested ⟨_, _, rfl⟩
  split
  · exact RiskOnly.requested ⟨_, _, rfl⟩
  · exact Requested.trans (RiskOnly.requested ⟨_, _, rfl⟩)
      (requested_beginCoherentRiskRefresh _ true)

variable {a}

lemma wiredTo_disconnect {api : Api} (h : a.WiredTo api) (hf : b.cfg.account = a.cfg.account)
    (he : b.connectionEpoch = a.connectionEpoch) : b.WiredTo api.disconnect := by
  apply h.of_eq hf he
  · unfold Api.disconnect
    split_ifs <;> rfl
  · unfold Api.disconnect
    split_ifs <;> rfl
  · unfold Api.disconnect
    split_ifs <;> rfl
  · unfold Api.disconnect
    split_ifs with hc
    · exact id
    · simp

lemma Wired.disconnected (h : a.Wired) (ha : b.api = a.api.map Api.disconnect)
    (hc : b.cfg.account = a.cfg.account) (he : b.connectionEpoch = a.connectionEpoch)
    (ht : b.apiConnectAttempted = a.apiConnectAttempted) : b.Wired where
  api := by
    intro x hx
    rw [ha, Option.map_eq_some_iff] at hx
    obtain ⟨api, hp, rfl⟩ := hx
    exact wiredTo_disconnect (h.api api hp) hc he
  attempted hb := by
    rw [he]
    exact h.attempted (ht ▸ hb)

lemma Wired.connect (h : a.Wired) (rebuilt : Option ℕ) (accepted : Bool) :
    (a.connect rebuilt accepted).Wired := by
  unfold HeptaIBGatewayAdapter.connect
  split
  · exact h.of_silent rfl rfl rfl rfl
  split
  · exact h.of_silent rfl rfl rfl rfl
  simp only
  split
  · refine ⟨?_, by simp [dropConnection, invalidateViews, invalidateRiskSnapshot,
      invalidateTerminalCorrelationSnapshot, invalidateCorrelationSnapshot]⟩
    intro x hx
    rename_i hnn
    simp [dropConnection, invalidateViews, invalidateRiskSnapshot,
      invalidateTerminalCorrelationSnapshot, invalidateCorrelationSnapshot, hnn] at hx
  · rename_i api hs
    have hv : (∀ e ∈ api.queue.events, e.connectionEpoch = 0) ∧
        api.queue.latestConnectionEpoch = 0 ∧
        api.queue.reportedOverflowGeneration ≤ api.queue.overflowGeneration := by
      split at hs
      · obtain ⟨n, -, rfl⟩ := Option.map_eq_some_iff.mp hs
        simp [Api.rebuilt]
      rename_i hf
      have hepoch := h.attempted (by simpa [beginConnectionEpoch, invalidateViews,
        invalidateRiskSnapshot, invalidateTerminalCorrelationSnapshot,
        invalidateCorrelationSnapshot] using hf)
      have hw := h.api api hs
      refine ⟨?_, ?_, hw.reported⟩
      · intro e he
        have hc := hw.events e he
        unfold HeptaIBGatewayAdapter.current at hc
        omega
      · have hl := hw.latest
        omega
    have hr (b : HeptaIBGatewayAdapter) (hb : b.connectionEpoch ≠ 0) :
        b.WiredTo { api with
          account := b.cfg.account
          connectionEpoch := b.connectionEpoch
          connected := accepted } :=
      ⟨rfl, .inl hv.2.1, hv.2.2, fun e he => .inl (hv.1 e he), fun _ => rfl,
        fun _ => hb⟩
    unfold connectApi
    simp only
    split
    · refine ⟨fun x hx => ?_, by simp⟩
      obtain rfl := Option.some.inj hx
      exact hr _ (Nat.succ_ne_zero a.connectionEpoch)
    · refine ⟨fun x hx => ?_, by simp [dropConnection]⟩
      obtain rfl := Option.some.inj hx
      exact hr _ (Nat.succ_ne_zero a.connectionEpoch)

theorem Wired.step (h : a.Wired) (an : Action) : (a.step an).Wired := by
  cases an with
  | callback => exact h.callback ..
  | dequeueTurn => exact h.dequeueTurn
  | reqAccountSummary => exact h.requested (requested_reqAccountSummary a false)
  | reqPositions => exact h.requested (requested_reqPositions a false)
  | reqRiskRefresh => exact h.requested (requested_beginCoherentRiskRefresh a false)
  | reqRecoveryAuditRiskRefresh => exact h.requested (requested_reqRecoveryAuditRiskRefresh a)
  | beginOpenOrderRefresh => exact h.frame (same_beginOpenOrderRefresh a).frame
  | reqTerminalCorrelations => exact h.frame (same_reqTerminalCorrelations a).frame
  | acknowledgePostFillRiskReconciled orderId =>
    exact h.frame (same_acknowledgePostFillRiskReconciled a orderId).frame
  | placeOrder => exact h.frame (frame_placeOrder ..)
  | placeOrderCorrelated => exact h.frame (frame_placeCorrelated ..)
  | placeReduceOnlyOrderCorrelated => exact h.frame (frame_placeReduceOnlyOrderCorrelated ..)
  | cancelOrder => exact h.frame (frame_cancelOrder ..)
  | connect => exact h.connect ..
  | disconnect => exact h.disconnected rfl rfl rfl rfl
  | haltTransportForTerminalAudit =>
    change (haltTransportForTerminalAudit a).Wired
    unfold haltTransportForTerminalAudit
    split_ifs
    · exact h.of_silent rfl rfl rfl rfl
    · exact h.disconnected rfl rfl rfl rfl
  | markAuthoritativeResyncComplete ogen =>
    exact h.frame (same_markAuthoritativeResyncComplete a ogen).frame
  | prepareReconnectCashAttestation obs =>
    change (prepareReconnectCashAttestation a obs).Wired
    unfold prepareReconnectCashAttestation
    split_ifs
    · exact h.of_silent rfl rfl rfl rfl
    · exact h
  | beginRecoveryAuditBarrier =>
    change a.beginRecoveryAuditBarrier.2.Wired
    rcases beginRecoveryAuditBarrier_eq a with heq | heq
    · rw [heq]
      exact h
    · rw [heq]
      exact h.of_silent rfl rfl rfl rfl

end HeptaIBGatewayAdapter

end Hepta
