import Hepta.Adapter.RiskAnswers

/-!
# A complete risk snapshot holds its own answers

One lemma for each kind of step: the answers are taken one by one, an invalidation ends the refresh,
and issuing the requests starts a new record. Without the condition on the queue the answers to an
earlier refresh can complete the snapshot, as in the run at the end.
-/

namespace Hepta

open Option HeptaIBGatewayAdapter

/-- No refresh is under way, or what was delivered for it is accounted for. -/
def RiskKept (d : RiskRecord) (a : HeptaIBGatewayAdapter) : Prop :=
  a.risk.Idle ∨ ∃ api, a.api = some api ∧ Answered d a.cfg api a.risk

variable {d : RiskRecord} {a b : HeptaIBGatewayAdapter} {e : IBEvent}

lemma idle_invalidate (r : RiskView) (cfg : HeptaIBConfig) (connectionEpoch : ℕ) (reason : String) :
    (r.invalidate cfg connectionEpoch reason).Idle := ⟨rfl, rfl⟩

lemma idle_invalidateRiskSnapshot (a : HeptaIBGatewayAdapter) (reason : String) :
    (a.invalidateRiskSnapshot reason).risk.Idle := ⟨rfl, rfl⟩

/-! ### Taking an event -/

lemma monitorFxCashValue_eq (a : HeptaIBGatewayAdapter) (e : IBEvent) :
    a.monitorFxCashValue e = a ∨ ∃ reason, a.monitorFxCashValue e = a.invalidateRiskSnapshot reason := by
  unfold monitorFxCashValue monitorFxCashBalance
  simp only
  split_ifs
  · exact .inr ⟨_, rfl⟩
  · exact .inr ⟨_, rfl⟩
  · exact .inl rfl
  · exact .inl rfl
  all_goals
    split
    · exact .inr ⟨_, rfl⟩
    · split_ifs
      all_goals first | exact .inl rfl | exact .inr ⟨_, rfl⟩

lemma applyPositionMonitorUpdate_eq (a : HeptaIBGatewayAdapter) (e : IBEvent) :
    a.applyPositionMonitorUpdate e = a ∨
      ∃ reason, a.applyPositionMonitorUpdate e = a.invalidateRiskSnapshot reason := by
  unfold applyPositionMonitorUpdate
  simp only
  split_ifs
  · exact .inl rfl
  · exact .inr ⟨_, rfl⟩
  · exact .inr ⟨_, rfl⟩
  · exact .inl rfl

lemma RiskView.Idle.of_eq {r r' : RiskView} (h : r.Idle)
    (hp : r'.coherentRiskRefreshPending = r.coherentRiskRefreshPending)
    (hc : r'.snapshot.coherentRefreshComplete = r.snapshot.coherentRefreshComplete) : r'.Idle :=
  ⟨hp.trans h.1, hc.trans h.2⟩

lemma completeIfReady_of_idle (h : a.risk.Idle) : a.completeCoherentRiskRefreshIfReady = a := by
  unfold completeCoherentRiskRefreshIfReady
  rw [if_pos (by simp [h.1])]

/-- Without a refresh no answer completes one. -/
lemma idle_applyRiskSnapshotEvent (h : a.risk.Idle) (e : IBEvent) :
    (a.applyRiskSnapshotEvent e).risk.Idle := by
  unfold applyRiskSnapshotEvent
  split
  · unfold applyAccountValueRiskEvent
    split_ifs
    · exact h
    · obtain ⟨_, _, _, _, heq, -⟩ := initialFxCashValue_spec a e
      simp only [heq]
      exact h.of_eq rfl rfl
    · exact h.of_eq rfl rfl
    · rcases monitorFxCashValue_eq a e with heq | ⟨rs, heq⟩
      · rwa [heq]
      · rw [heq]
        exact idle_invalidateRiskSnapshot a rs
    · exact h
  · split
    · have hi : (a.risk.completeAccount a.cfg a.connectionEpoch a.eventStreamAuthoritative).Idle := by
        simp only [RiskView.completeAccount]
        split_ifs <;> exact h.of_eq rfl rfl
      rw [completeAccountRiskRefresh, completeIfReady_of_idle (by exact hi)]
      exact hi
    · exact h
  · split
    · unfold applyPositionSnapshotItem RiskView.positionItem
      split_ifs <;> exact h.of_eq rfl rfl
    · exact h
  · rcases applyPositionMonitorUpdate_eq a e with heq | ⟨rs, heq⟩
    · rwa [heq]
    · rw [heq]
      exact idle_invalidateRiskSnapshot a rs
  · split
    · have hi : (a.risk.completePositions a.connectionEpoch a.eventStreamAuthoritative).Idle :=
        h.of_eq rfl rfl
      rw [completePositionRiskRefresh, completeIfReady_of_idle (by exact hi)]
      exact hi
    · exact h
  · exact h

lemma Frame.idle (h : Frame a b) (hi : a.risk.Idle) : b.risk.Idle := by
  rcases h.risk with hr | ⟨rs, hr⟩
  · rwa [hr]
  · rw [hr]
    exact idle_invalidate _ _ _ rs

lemma idle_takeEvent (h : a.risk.Idle) (hc : a.current e) (hp : e.type ≠ .portfolioUpdate) :
    (a.takeEvent e).2.risk.Idle := by
  cases hr : Api.isRiskType e.type with
  | true =>
    rw [takeEvent_risk hc hr]
    exact idle_applyRiskSnapshotEvent h e
  | false => exact Frame.idle (frame_takeEvent hr hp) h

/-- A loss that is reported invalidates the snapshot. -/
lemma idle_takeEvent_overflow (hc : a.current e) (ht : e.type = .eventQueueOverflow) :
    (a.takeEvent e).2.risk.Idle := by
  rw [takeEvent_connection hc (by simp [ht])]
  simp only [applyTypedTransition, ht]
  exact ⟨rfl, rfl⟩

section Take

variable {api : Api} {rest : List IBEvent}

lemma kept_applyRiskSnapshotEvent (h : Answered d a.cfg api a.risk) (hl : api.queue.lossless)
    (he : api.queue.events = e :: rest) (hr : Api.isRiskType e.type = true) :
    (a.applyRiskSnapshotEvent e).risk.Idle ∨
      Answered d a.cfg { api with queue := api.queue.pop rest } (a.applyRiskSnapshotEvent e).risk := by
  have hk (hs : a.risk.positionsRefreshPending = true → isPositionAnswer e = false)
      (hc : a.risk.accountRefreshPending = true → isCashAnswer e = false) :
      Answered d a.cfg { api with queue := api.queue.pop rest } a.risk :=
    h.pop he hs hc
  unfold applyRiskSnapshotEvent
  split
  · rename_i ht
    have hs : isPositionAnswer e = false := by simp [isPositionAnswer, ht]
    by_cases ha : e.account = a.cfg.account
    · by_cases hpn : a.risk.accountRefreshPending = true
      · exact .inr (h.accountValue hpn hl he ht ha)
      have hk := hk (fun _ => hs) fun hp => absurd hp hpn
      unfold applyAccountValueRiskEvent
      rw [if_neg (by simp [ha]), if_neg hpn]
      split
      · rcases monitorFxCashValue_eq a e with heq | ⟨rs, heq⟩
        · rw [heq]
          exact .inr hk
        · rw [heq]
          exact .inl (idle_invalidateRiskSnapshot a rs)
      · exact .inr hk
    · -- a balance that was delivered for the request is of the account
      have hc (hp : a.risk.accountRefreshPending = true) : isCashAnswer e = false := by
        cases han : isCashAnswer e with
        | false => rfl
        | true => exact absurd (h.mem_cash hp hl he han).2 ha
      unfold applyAccountValueRiskEvent
      rw [if_pos ha]
      exact .inr (hk (fun _ => hs) hc)
  · rename_i ht
    have hs : isPositionAnswer e = false := by simp [isPositionAnswer, ht]
    split
    · rename_i hpn
      have hm := h.completeAccount hpn hl he ht a.connectionEpoch a.eventStreamAuthoritative
      exact @Answered.completeIfReady d { api with queue := api.queue.pop rest }
        { a with risk := a.risk.completeAccount a.cfg a.connectionEpoch a.eventStreamAuthoritative }
        hm
    · rename_i hpn
      exact .inr (hk (fun _ => hs) fun hp => absurd hp hpn)
  · rename_i ht
    have hc : isCashAnswer e = false := by simp [isCashAnswer, ht]
    split
    · rename_i hpn
      have ha := (h.mem_position hpn hl he
        (by simp [isPositionAnswer, ht])).2
      unfold applyPositionSnapshotItem
      rw [if_neg]
      · exact .inr (h.positionItem hpn hl he ht)
      · rintro (hem | ho)
        · exact h.accountSet hem
        · exact ho ha
    · rename_i hpn
      exact .inr (hk (fun hp => absurd hp hpn) fun _ => hc)
  · rename_i ht
    have hk := hk (fun _ => by simp [isPositionAnswer, ht])
      fun _ => by simp [isCashAnswer, ht]
    rcases applyPositionMonitorUpdate_eq a e with heq | ⟨rs, heq⟩
    · rw [heq]
      exact .inr hk
    · rw [heq]
      exact .inl (idle_invalidateRiskSnapshot a rs)
  · rename_i ht
    have hc : isCashAnswer e = false := by simp [isCashAnswer, ht]
    split
    · rename_i hpn
      have hm := h.completePositions hpn hl he ht a.connectionEpoch a.eventStreamAuthoritative
      exact @Answered.completeIfReady d { api with queue := api.queue.pop rest }
        { a with risk := a.risk.completePositions a.connectionEpoch a.eventStreamAuthoritative }
        hm
    · rename_i hpn
      exact .inr (hk (fun hp => absurd hp hpn) fun _ => hc)
  · exfalso
    cases ht : e.type <;> simp_all [Api.isRiskType]

end Take

lemma silent_field {β : Type} {api api' : Api} (field : Api → β)
    (hf : ∀ api : Api, field api.silent = field api) (h : api.silent = api'.silent) :
    field api = field api' := by
  rw [← hf api, ← hf api', h]

lemma Frame.api {api : Api} (h : Frame a b) (ha : a.api = some api) :
    ∃ api', b.api = some api' ∧ api'.silent = api.silent := by
  have ht := h.transport
  rw [ha] at ht
  exact Option.map_eq_some_iff.mp ht

lemma RiskKept.frame (h : RiskKept d a) (hf : Frame a b) : RiskKept d b := by
  rcases h with hi | ⟨api, ha, han⟩
  · exact .inl (Frame.idle hf hi)
  rcases hf.risk with hr | ⟨rs, hr⟩
  · obtain ⟨api', ha', hs⟩ := Frame.api hf ha
    refine .inr ⟨api', ha', ?_⟩
    rw [hf.cfg, hr]
    apply han.of_api
    · exact silent_field Api.queue (fun _ => rfl) hs
    · exact silent_field Api.account (fun _ => rfl) hs
    · exact silent_field Api.activeAccountUpdatesReqId (fun _ => rfl) hs
    · rw [silent_field Api.positionsInitialDownloadPending (fun _ => rfl) hs]
      exact fun ho => ⟨ho, silent_field Api.activePositionsRequestId (fun _ => rfl) hs⟩
  · refine .inl ?_
    rw [hr]
    exact idle_invalidate _ _ _ rs

lemma not_answer_of_not_risk (h : Api.isRiskType e.type = false) :
    isPositionAnswer e = false ∧ isCashAnswer e = false := by
  cases ht : e.type <;> simp_all [isPositionAnswer, isCashAnswer, Api.isRiskType]

lemma RiskKept.dequeueTurn (h : RiskKept d a) (hw : a.Wired)
    (hpt : ∀ api, a.api = some api → ∀ e ∈ api.queue.events, e.type ≠ .portfolioUpdate) :
    RiskKept d a.dequeueTurn.2 := by
  rcases dequeueTurn_spec a with heq | ⟨api, queue, e, ha, heq, hs⟩
  · rw [heq]
    exact h
  rw [heq]
  rcases hs with ⟨ht, hepoch, -, -⟩ | ⟨hl, he, hq⟩
  · exact .inl (idle_takeEvent_overflow (hw.current ha (.inl hepoch)) ht)
  have hm : e ∈ api.queue.events := by simp [he]
  have hc := @Wired.current a queue api e hw ha (.inr hm)
  rcases h with hi | ⟨api', ha', han⟩
  · exact .inl (idle_takeEvent hi hc (hpt api ha e hm))
  obtain rfl : api = api' := Option.some.inj (ha.symm.trans ha')
  have hp : queue = api.queue.pop queue.events := hq
  cases hr : Api.isRiskType e.type with
  | true =>
    rw [takeEvent_risk hc hr]
    have hk := @kept_applyRiskSnapshotEvent d (a.withQueue api queue) e api queue.events
      han hl he hr
    obtain ⟨_, _, hr⟩ := riskOnly_applyRiskSnapshotEvent (a.withQueue api queue) e
    rw [← hp] at hk
    simp only [hr] at hk ⊢
    exact hk.imp id fun han => ⟨_, rfl, han⟩
  | false =>
    obtain ⟨hps, hca⟩ := not_answer_of_not_risk hr
    have hk : RiskKept d (a.withQueue api queue) := by
      refine .inr ⟨{ api with queue }, rfl, ?_⟩
      rw [hp]
      exact han.pop he (fun _ => hps) fun _ => hca
    exact hk.frame (frame_takeEvent hr (hpt api ha e hm))

/-! ### Requests -/

variable (a)

/-- A request of its own ends the coherence of the snapshot. -/
lemma idle_reqAccountSummary : (a.reqAccountSummary false).2.risk.Idle := by
  have hd : a.risk.dropCoherence.Idle := ⟨rfl, rfl⟩
  unfold HeptaIBGatewayAdapter.reqAccountSummary
  simp only [Bool.false_eq_true, if_false]
  split
  · exact hd
  split
  · exact ⟨rfl, rfl⟩
  · split
    · exact ⟨rfl, rfl⟩
    · split <;> exact ⟨rfl, rfl⟩

lemma idle_reqPositions : (a.reqPositions false).2.risk.Idle := by
  have hd : a.risk.dropCoherence.Idle := ⟨rfl, rfl⟩
  unfold HeptaIBGatewayAdapter.reqPositions
  simp only [Bool.false_eq_true, if_false]
  split
  · exact hd
  split
  · exact ⟨rfl, rfl⟩
  · split
    · exact ⟨rfl, rfl⟩
    · split <;> exact ⟨rfl, rfl⟩

lemma reqAccountSummary_coherent :
    ((a.reqAccountSummary true).1 = false ∧
      ((a.reqAccountSummary true).2.risk.snapshot.coherentRefreshComplete = true →
        a.risk.snapshot.coherentRefreshComplete = true)) ∨
    ∃ api, a.api = some api ∧ api.connected = true ∧ api.reqAccountSummary.1 = true ∧
      a.reqAccountSummary true =
        (true, { a with
          risk := a.risk.beginAccount a.cfg a.connectionEpoch
          api := some api.reqAccountSummary.2 }) := by
  unfold HeptaIBGatewayAdapter.reqAccountSummary
  simp only [if_true]
  split
  · exact .inl ⟨rfl, id⟩
  split
  · exact .inl ⟨rfl, by simp [invalidateRiskSnapshot, RiskView.invalidate]⟩
  rename_i api hf
  obtain ⟨ha, hc⟩ := Option.filter_eq_some_iff.mp hf
  split
  · exact .inl ⟨rfl, by simp [invalidateRiskSnapshot, RiskView.invalidate]⟩
  split
  · rename_i hr
    exact .inr ⟨api, ha, hc, hr, rfl⟩
  · exact .inl ⟨rfl, id⟩

lemma reqPositions_coherent :
    (a.reqPositions true).1 = false ∨
    ∃ api, a.api = some api ∧ api.connected = true ∧ api.reqPositions.1 = true ∧
      a.reqPositions true =
        (true, { a with
          risk := a.risk.beginPositions a.connectionEpoch
          api := some api.reqPositions.2 }) := by
  unfold HeptaIBGatewayAdapter.reqPositions
  simp only [if_true]
  split
  · exact .inl rfl
  split
  · exact .inl rfl
  rename_i api hf
  obtain ⟨ha, hc⟩ := Option.filter_eq_some_iff.mp hf
  split
  · exact .inl rfl
  split
  · rename_i hr
    exact .inr ⟨api, ha, hc, hr, rfl⟩
  · exact .inl rfl

/-- A coherent refresh is refused, fails, or issues its two requests. -/
lemma beginCoherentRiskRefresh_spec (audit : Bool) :
    ((a.beginCoherentRiskRefresh audit).1 = false ∧ ((a.beginCoherentRiskRefresh audit).2 = a ∨
        (a.beginCoherentRiskRefresh audit).2.risk.Idle)) ∨
    ∃ api, a.api = some api ∧ api.connected = true ∧ api.reqAccountSummary.1 = true ∧
      a.beginCoherentRiskRefresh audit =
        (true, { a with
          risk := ((a.markCoherentRefresh audit).risk.beginAccount a.cfg a.connectionEpoch)
            |>.beginPositions a.connectionEpoch
          api := some api.reqAccountSummary.2.reqPositions.2 }) := by
  unfold beginCoherentRiskRefresh
  split
  · exact .inl ⟨rfl, .inl rfl⟩
  split
  · exact .inl ⟨rfl, .inr ⟨rfl, rfl⟩⟩
  rcases reqAccountSummary_coherent (a.markCoherentRefresh audit) with
    ⟨hf, hc⟩ | ⟨api, ha, hcn, hr, heq⟩
  · have hi : ((a.markCoherentRefresh audit).reqAccountSummary
        true).2.risk.snapshot.coherentRefreshComplete = false := by
      rw [Bool.eq_false_iff]
      intro ht
      exact absurd (hc ht) (by simp [markCoherentRefresh])
    simp only [hf]
    exact .inl ⟨rfl, .inr ⟨rfl, hi⟩⟩
  · simp only [heq, Bool.not_true, Bool.false_eq_true, if_false]
    rcases reqPositions_coherent { a.markCoherentRefresh audit with
        risk := (a.markCoherentRefresh audit).risk.beginAccount
          (a.markCoherentRefresh audit).cfg (a.markCoherentRefresh audit).connectionEpoch
        api := some api.reqAccountSummary.2 } with hf | ⟨api', ha', -, -, heq'⟩
    · simp only [hf]
      exact .inl ⟨rfl, .inr ⟨rfl, rfl⟩⟩
    · obtain rfl := Option.some.inj ha'
      simp only [heq', Bool.not_true, Bool.false_eq_true, if_false]
      exact .inr ⟨api, ha, hcn, hr, rfl⟩

variable {a}

lemma kept_issued {api : Api} (hw : a.Wired) (hap : a.api = some api)
    (hcn : api.connected = true) (hr : api.reqAccountSummary.1 = true)
    (hq : ∀ e ∈ api.queue.events, isPositionAnswer e = false ∧ isCashAnswer e = false)
    (audit : Bool) :
    Answered
      { accountRequest := api.reqAccountSummary.2.reqPositions.2.activeAccountUpdatesReqId
        positionsRequest := api.reqAccountSummary.2.reqPositions.2.activePositionsRequestId
        exposureGeneration := a.exposureGeneration }
      a.cfg api.reqAccountSummary.2.reqPositions.2
      (((a.markCoherentRefresh audit).risk.beginAccount a.cfg a.connectionEpoch)
        |>.beginPositions a.connectionEpoch) := by
  have ha : api.account = a.cfg.account := (hw.api api hap).account hcn
  have hs : api.account ≠ "" := by
    intro hem
    simp [Api.reqAccountSummary, hem] at hr
  have hsame := sameWire_reqPositions api.reqAccountSummary.2
  have hsame' := sameWire_reqAccountSummary api
  have hp : api.queue.events.filter isPositionAnswer = [] :=
    List.filter_eq_nil_iff.mpr fun e he => by simp [(hq e he).1]
  have hc : api.queue.events.filter isCashAnswer = [] :=
    List.filter_eq_nil_iff.mpr fun e he => by simp [(hq e he).2]
  constructor
  · exact ⟨by simp, by simp, rfl, fun _ => ⟨rfl, by simp⟩, by simp⟩
  · rw [hsame.account, hsame'.account, ha]
  · rw [← ha]
    exact hs
  · refine .inl ⟨rfl, [], fun _ => ?_, by simp, fun _ => rfl⟩
    rw [hsame.queue, hsame'.queue, hp]
    rfl
  · refine .inl ⟨rfl, ?_, [], fun _ => ?_, by simp, fun _ => rfl⟩
    · intro ho
      cases ho
    · rw [hsame.queue, hsame'.queue, hc]
      rfl
  · exact fun _ => rfl
  · intro hm
    cases hm

/-! ### The other calls -/

lemma RiskKept.of_eq (h : RiskKept d a) (hc : b.cfg = a.cfg) (hr : b.risk = a.risk)
    (ha : b.api = a.api) : RiskKept d b := by
  unfold RiskKept at h ⊢
  rwa [hc, hr, ha]

lemma RiskKept.connect (h : RiskKept d a) (rebuilt : Option ℕ) (accepted : Bool) :
    RiskKept d (a.connect rebuilt accepted) := by
  unfold HeptaIBGatewayAdapter.connect
  split
  · exact h.of_eq rfl rfl rfl
  split
  · exact .inl ⟨rfl, rfl⟩
  simp only
  split
  · exact .inl ⟨rfl, rfl⟩
  · unfold connectApi
    simp only
    split <;> exact .inl ⟨rfl, rfl⟩

lemma RiskKept.haltTransportForTerminalAudit (h : RiskKept d a) :
    RiskKept d a.haltTransportForTerminalAudit := by
  unfold HeptaIBGatewayAdapter.haltTransportForTerminalAudit
  split
  · exact h.of_eq rfl rfl rfl
  · rcases h with hi | ⟨api, hp, ha⟩
    · exact .inl hi
    · exact .inr ⟨api.disconnect, by simp [hp], ha.disconnect⟩

lemma RiskKept.prepareReconnectCashAttestation (h : RiskKept d a) (obs : Dict String Double) :
    RiskKept d (a.prepareReconnectCashAttestation obs) := by
  unfold HeptaIBGatewayAdapter.prepareReconnectCashAttestation
  split
  · rcases h with hi | ⟨api, hp, ha⟩
    · exact .inl (hi.of_eq rfl rfl)
    refine .inr ⟨api, hp, ha.deliveries, ha.account, ha.accountSet, ?_, ?_, ha.exposure, ?_⟩
    · exact ha.positions.imp (fun ho => ho.congr ⟨rfl, rfl, rfl, rfl, rfl⟩ id rfl)
        fun hh => hh.congr ⟨rfl, rfl, rfl, rfl, rfl⟩
    · rcases ha.cash with ho | hh
      · obtain ⟨done, hd, ht, hb⟩ := ho.taken
        exact .inl ⟨ho.pending, ho.conflict, done, hd, ht, hb⟩
      · exact .inr ⟨hh.closed, hh.held⟩
    · intro hc
      obtain ⟨h₁, h₂, h₃, h₄, h₅, h₆⟩ := ha.complete hc
      exact ⟨h₁, h₂, h₃, h₄, h₅, h₆⟩
  · exact h

/-! ### The queue -/

/-- What is queued after a call was queued before it. -/
def QueueFrom (a b : HeptaIBGatewayAdapter) : Prop :=
  ∀ x, b.api = some x → ∀ e ∈ x.queue.events, ∃ api, a.api = some api ∧ e ∈ api.queue.events

lemma QueueFrom.of_api (h : b.api = a.api) : QueueFrom a b := fun x hx _ he => ⟨x, h ▸ hx, he⟩

lemma Frame.queueFrom (h : Frame a b) : QueueFrom a b := by
  intro x hx e he
  have ht := h.transport
  rw [hx] at ht
  obtain ⟨api, ha, hs⟩ := Option.map_eq_some_iff.mp ht.symm
  refine ⟨api, ha, ?_⟩
  rwa [silent_field Api.queue (fun _ => rfl) hs]

lemma Requested.queueFrom (h : Requested a b) : QueueFrom a b := by
  obtain ⟨_, _, _, rfl, hw⟩ := h
  intro x hx e he
  obtain ⟨api, ha, hs⟩ := hw x hx
  exact ⟨api, ha, hs.queue ▸ he⟩

lemma queueFrom_disconnect (h : b.api = a.api.map Api.disconnect) : QueueFrom a b := by
  intro x hx e he
  rw [h] at hx
  obtain ⟨api, ha, rfl⟩ := Option.map_eq_some_iff.mp hx
  refine ⟨api, ha, ?_⟩
  unfold Api.disconnect at he
  split at he <;> exact he

lemma queueFrom_takeEvent (a : HeptaIBGatewayAdapter) (e : IBEvent) (hc : a.current e) :
    QueueFrom a (a.takeEvent e).2 := by
  cases hr : Api.isRiskType e.type with
  | true =>
    rw [takeEvent_risk hc hr]
    exact Requested.queueFrom (riskOnly_applyRiskSnapshotEvent a e).requested
  | false =>
    by_cases hp : e.type = .portfolioUpdate
    · rw [takeEvent_portfolioUpdate hc hp]
      exact Requested.queueFrom (publishPositionEvent_eq a e).requested
    · exact Frame.queueFrom (frame_takeEvent hr hp)

lemma queueFrom_dequeueTurn (hw : a.Wired) : QueueFrom a a.dequeueTurn.2 := by
  rcases dequeueTurn_spec a with heq | ⟨api, queue, e, ha, heq, hc⟩
  · rw [heq]
    exact .of_api rfl
  rw [heq]
  have hs : ∀ x ∈ queue.events, x ∈ api.queue.events := by
    intro x hx
    rcases hc with ⟨-, -, rfl, -⟩ | ⟨-, hv, -⟩
    · exact hx
    · rw [hv]
      exact List.mem_cons_of_mem e hx
  have hr : (a.withQueue api queue).current e := by
    rcases hc with ⟨-, hepoch, -⟩ | ⟨-, hv, -⟩
    · exact hw.current ha (.inl hepoch)
    · exact hw.current ha (.inr (by simp [hv]))
  intro x hx e' he'
  obtain ⟨_, ha', hm⟩ := queueFrom_takeEvent _ e hr x hx e' he'
  obtain rfl := Option.some.inj ha'
  exact ⟨api, ha, hs e' hm⟩

lemma queueFrom_connect (a : HeptaIBGatewayAdapter) (rebuilt : Option ℕ) (accepted : Bool) :
    QueueFrom a (a.connect rebuilt accepted) := by
  unfold HeptaIBGatewayAdapter.connect
  split
  · exact .of_api rfl
  split
  · exact .of_api rfl
  simp only
  split
  · rename_i hnn
    intro x hx
    have : (none : Option Api) = some x := hnn.symm.trans hx
    cases this
  · rename_i api hs
    intro x hx e he
    have hv : x.queue = api.queue := by
      unfold connectApi at hx
      simp only at hx
      split at hx <;> obtain rfl := Option.some.inj hx <;> rfl
    rw [hv] at he
    split at hs
    · obtain ⟨n, -, rfl⟩ := Option.map_eq_some_iff.mp hs
      simp [Api.rebuilt] at he
    · exact ⟨api, hs, he⟩

namespace RiskHistory

/-- What holds in every run of undisturbed steps. -/
structure Invariant (t : RiskHistory) : Prop where
  wired : t.adapter.Wired
  portfolio : ∀ api, t.adapter.api = some api → ∀ e ∈ api.queue.events, e.type ≠ .portfolioUpdate
  kept : RiskKept t.record t.adapter

variable {t : RiskHistory} {action : Action}

lemma Invariant.exact (h : t.Invariant) : t.Exact := by
  intro hm
  rcases h.kept with hi | ⟨api, hp, ha⟩
  · simp [hi.2] at hm
  have hc := ha.complete hm
  refine ⟨?_, ?_, hc.absorbed.le⟩
  · rcases ha.positions with ho | hh
    · exact absurd ho.pending (by simp [hc.positionsClosed])
    · exact (hh.held hc.positionsComplete).1
  · rcases ha.cash with ho | hh
    · exact absurd ho.pending (by simp [hc.accountClosed])
    · exact (hh.held hc.accountComplete).1

lemma step_of_not_issues (hi : issues t.adapter action = false) : t.step action =
    ⟨t.adapter.step action, t.record.deliver (delivered t.adapter action)⟩ := by
  simp [step, hi, RiskRecord.deliver]

lemma portfolio_of_queueFrom (h : QueueFrom a b)
    (ha : ∀ api, a.api = some api → ∀ e ∈ api.queue.events, e.type ≠ .portfolioUpdate) :
    ∀ api, b.api = some api → ∀ e ∈ api.queue.events, e.type ≠ .portfolioUpdate := by
  intro x hx e he
  obtain ⟨api, hp, hm⟩ := h x hx e he
  exact ha api hp e hm

lemma Invariant.callback (h : t.Invariant) {c : Api.Callback}
    (hu : Unsubscribed c) : (t.step (.callback c)).Invariant := by
  rw [step_of_not_issues rfl]
  refine ⟨h.wired.callback c, ?_, ?_⟩
  · intro x hx e he
    obtain ⟨api, ha, rfl⟩ : ∃ api, t.adapter.api = some api ∧ api.callback c = x := by
      simpa [HeptaIBGatewayAdapter.step] using hx
    rcases @Api.callback_queue api c with ⟨_, hd, hq⟩ | ⟨-, hq | hq⟩
    · rw [hq] at he
      rcases IBAuthoritativeEventQueue.mem_push he with he | rfl
      · exact h.portfolio api ha e he
      · exact ((Api.delivered_spec hd).2 hu).2
    · exact h.portfolio api ha e (hq ▸ he)
    · rw [hq] at he
      exact h.portfolio api ha e he
  · rcases h.kept with hi | ⟨api, ha, han⟩
    · exact .inl hi
    refine .inr ⟨api.callback c, by simp [HeptaIBGatewayAdapter.step, ha], ?_⟩
    have hk := han.callback hu (h.wired.api api ha).reported
    have hd : delivered t.adapter (.callback c) = api.delivered c := by
      simp [delivered, ha]
    simp only [hd]
    exact hk

/-- A refresh that is issued starts a record; one that is not leaves the snapshot or ends it. -/
lemma Invariant.refresh (h : t.Invariant) (action : Action) (audit : Bool)
    (barrier : AuditBarrier)
    (hs : t.adapter.step action =
      ({ t.adapter with audit := barrier }.beginCoherentRiskRefresh audit).2)
    (hi : issues t.adapter action =
      ({ t.adapter with audit := barrier }.beginCoherentRiskRefresh audit).1)
    (hd : delivered t.adapter action = none)
    (hu : issues t.adapter action = true → ∀ api ∈ t.adapter.api, ∀ e ∈ api.queue.events,
      isPositionAnswer e = false ∧ isCashAnswer e = false)
    (hp : QueueFrom t.adapter (t.adapter.step action)) : (t.step action).Invariant := by
  have hw' := h.wired.step action
  have hq := portfolio_of_queueFrom hp h.portfolio
  rcases beginCoherentRiskRefresh_spec { t.adapter with audit := barrier } audit with
    ⟨hf, hc⟩ | ⟨api, hap, hcn, hr, heq⟩
  · rw [step_of_not_issues (hi.trans hf)]
    refine ⟨hw', hq, ?_⟩
    simp only [hd, RiskRecord.deliver, toList_none, List.append_nil]
    rcases hc with hm | hid
    · rw [hs, hm]
      exact h.kept.of_eq rfl rfl rfl
    · rw [hs]
      exact .inl hid
  · have ht : issues t.adapter action = true := by rw [hi, heq]
    have hk := kept_issued h.wired hap hcn hr (hu ht api hap) audit
    have ha := hs
    rw [heq] at ha
    simp only [step, ht, if_true]
    refine ⟨hw', hq, .inr ⟨api.reqAccountSummary.2.reqPositions.2, ?_, ?_⟩⟩
    · simp only [ha]
    · simp only [ha, map_some, getD_some]
      exact hk

/-- A call that neither delivers an event nor issues a refresh. -/
lemma Invariant.of_kept (h : t.Invariant) (action : Action) (hi : issues t.adapter action = false)
    (hd : delivered t.adapter action = none) (hq : QueueFrom t.adapter (t.adapter.step action))
    (hk : RiskKept t.record (t.adapter.step action)) : (t.step action).Invariant := by
  rw [step_of_not_issues hi, hd]
  refine ⟨h.wired.step action, portfolio_of_queueFrom hq h.portfolio, ?_⟩
  simpa only [RiskRecord.deliver, toList_none, List.append_nil] using hk

lemma Invariant.frame (h : t.Invariant) (action : Action)
    (hi : issues t.adapter action = false) (hd : delivered t.adapter action = none)
    (hf : Frame t.adapter (t.adapter.step action)) : (t.step action).Invariant :=
  h.of_kept action hi hd (Frame.queueFrom hf) (h.kept.frame hf)

lemma Invariant.step (h : t.Invariant) (hu : t.Undisturbed action) : (t.step action).Invariant := by
  cases action with
  | callback => exact h.callback hu
  | dequeueTurn =>
    exact h.of_kept _ rfl rfl (queueFrom_dequeueTurn h.wired) (h.kept.dequeueTurn h.wired h.portfolio)
  | reqAccountSummary =>
    exact h.of_kept _ rfl rfl (Requested.queueFrom (requested_reqAccountSummary _ false))
      (.inl (idle_reqAccountSummary _))
  | reqPositions =>
    exact h.of_kept _ rfl rfl (Requested.queueFrom (requested_reqPositions _ false))
      (.inl (idle_reqPositions _))
  | reqRiskRefresh =>
    exact h.refresh _ false t.adapter.audit rfl rfl rfl hu
      (Requested.queueFrom (requested_beginCoherentRiskRefresh _ false))
  | reqRecoveryAuditRiskRefresh =>
    have hq := Requested.queueFrom (requested_reqRecoveryAuditRiskRefresh t.adapter)
    by_cases hr : t.adapter.reqRecoveryAuditRiskRefresh = (false, t.adapter)
    · apply h.of_kept .reqRecoveryAuditRiskRefresh _ rfl hq
      · change RiskKept t.record t.adapter.reqRecoveryAuditRiskRefresh.2
        rw [hr]
        exact h.kept
      · change t.adapter.reqRecoveryAuditRiskRefresh.1 = false
        rw [hr]
    · have heq : t.adapter.reqRecoveryAuditRiskRefresh =
          { t.adapter with audit := { t.adapter.audit with
              attemptedConnectionEpoch := t.adapter.connectionEpoch } }.beginCoherentRiskRefresh
            true := by
        unfold reqRecoveryAuditRiskRefresh at hr ⊢
        split_ifs at hr ⊢
        · exact absurd rfl hr
        · exact absurd rfl hr
        · rfl
      exact h.refresh _ true _ (congrArg Prod.snd heq) (congrArg Prod.fst heq) rfl hu hq
  | beginOpenOrderRefresh => exact h.frame _ rfl rfl (same_beginOpenOrderRefresh _).frame
  | reqTerminalCorrelations => exact h.frame _ rfl rfl (same_reqTerminalCorrelations _).frame
  | acknowledgePostFillRiskReconciled orderId =>
    exact h.frame _ rfl rfl (same_acknowledgePostFillRiskReconciled _ orderId).frame
  | placeOrder => exact h.frame _ rfl rfl (frame_placeOrder ..)
  | placeOrderCorrelated => exact h.frame _ rfl rfl (frame_placeCorrelated ..)
  | placeReduceOnlyOrderCorrelated => exact h.frame _ rfl rfl (frame_placeReduceOnlyOrderCorrelated ..)
  | cancelOrder => exact h.frame _ rfl rfl (frame_cancelOrder ..)
  | connect => exact h.of_kept _ rfl rfl (queueFrom_connect _ _ _) (h.kept.connect ..)
  | disconnect => exact h.of_kept _ rfl rfl (queueFrom_disconnect rfl) (.inl ⟨rfl, rfl⟩)
  | haltTransportForTerminalAudit =>
    apply h.of_kept .haltTransportForTerminalAudit rfl rfl _ h.kept.haltTransportForTerminalAudit
    change QueueFrom t.adapter (haltTransportForTerminalAudit t.adapter)
    unfold haltTransportForTerminalAudit
    split
    · exact .of_api rfl
    · exact queueFrom_disconnect rfl
  | markAuthoritativeResyncComplete ogen =>
    exact h.frame _ rfl rfl (same_markAuthoritativeResyncComplete _ ogen).frame
  | prepareReconnectCashAttestation obs =>
    apply h.of_kept (.prepareReconnectCashAttestation obs) rfl rfl _
      (h.kept.prepareReconnectCashAttestation obs)
    change QueueFrom t.adapter (prepareReconnectCashAttestation t.adapter obs)
    unfold prepareReconnectCashAttestation
    split <;> exact .of_api rfl
  | beginRecoveryAuditBarrier =>
    have heq := beginRecoveryAuditBarrier_eq t.adapter
    apply h.of_kept _ rfl rfl
    · change QueueFrom t.adapter t.adapter.beginRecoveryAuditBarrier.2
      rcases heq with heq | heq <;> rw [heq] <;> exact .of_api rfl
    · change RiskKept t.record t.adapter.beginRecoveryAuditBarrier.2
      rcases heq with heq | heq <;> rw [heq]
      · exact h.kept
      · exact h.kept.of_eq rfl rfl rfl

lemma invariant_init (cfg : HeptaIBConfig) (mx : Option ℕ) :
    Invariant ⟨init cfg mx, {}⟩ where
  wired := wired_init cfg mx
  portfolio := by
    intro api ha
    simp only [init, map_eq_some_iff] at ha
    obtain ⟨n, -, rfl⟩ := ha
    simp [Api.rebuilt]
  kept := .inl ⟨rfl, rfl⟩

/-- In every run in which no answer is queued when a refresh is issued, a complete risk snapshot
holds exactly the answers to its own requests. -/
theorem exact_of_undisturbed (cfg : HeptaIBConfig) (maxEvents : Option ℕ) (actions : List Action)
    (hrun : Guarded.Run step Undisturbed ⟨init cfg maxEvents, {}⟩ actions) :
    (actions.foldl step ⟨init cfg maxEvents, {}⟩).Exact :=
  (hrun.invariant (invariant_init cfg maxEvents) fun _ _ h ho => h.step ho).exact

section Runs

/-- The number 1. -/
def unit : Double := ⟨0x3FF0000000000000⟩

def account : HeptaIBConfig := { account := "DU1" }

/-- The answers to a risk refresh: a value of the account and one position. -/
def answers (accountRequest positionsRequest : Int) : List Action :=
  [.callback (.accountUpdateMulti accountRequest "DU1" "NetLiquidation" "1000" "USD"),
    .callback (.accountUpdateMultiEnd accountRequest),
    .callback (.positionMulti positionsRequest "DU1" "" "AAPL" { symbol := "AAPL" } (some unit)),
    .callback (.positionMultiEnd positionsRequest)]

/-- An execution with an incomplete identity invalidates the snapshot. -/
def execution : IBEvent :=
  { type := .executionDetails, id := 5, requestId := -1, account := "DU1", number := unit
    number2 := unit }

def refreshed : List Action :=
  [.connect none true, .reqRiskRefresh] ++ answers 9001 12001 ++ List.replicate 4 .dequeueTurn

/-- The snapshot is invalidated while the answers are queued, and they complete the next refresh. -/
def overtaken : List Action :=
  [.connect none true, .reqRiskRefresh, .callback (.other execution (by decide))] ++
    answers 9001 12001 ++ [.dequeueTurn, .reqRiskRefresh] ++ List.replicate 4 .dequeueTurn

end Runs

theorem exact_of_undisturbed_refreshed :
    (refreshed.foldl step ⟨init account (some 8), {}⟩).adapter.risk.snapshot.coherentRefreshComplete =
        true ∧
      (refreshed.foldl step ⟨init account (some 8), {}⟩).Exact := by
  refine ⟨by decide, exact_of_undisturbed account (some 8) refreshed ?_⟩
  refine ⟨nofun, ?_, trivial, trivial, trivial, trivial, nofun, nofun, nofun, nofun, trivial⟩
  intro _ api ha e he
  have hm : ((step ⟨init account (some 8), {}⟩ (.connect none true)).adapter.api.all
      fun api => api.queue.events.isEmpty) = true := by decide
  rw [ha] at hm
  simp only [all_some, List.isEmpty_iff] at hm
  simp [hm] at he

/-- The second refresh is complete with a position that was delivered for the first one. -/
theorem not_exact_overtaken : ¬(overtaken.foldl step ⟨init account (some 8), {}⟩).Exact := by
  intro he
  have hc : (overtaken.foldl step
      ⟨init account (some 8), {}⟩).adapter.risk.snapshot.coherentRefreshComplete = true := by
    decide
  have hd : (overtaken.foldl step
      ⟨init account (some 8), {}⟩).adapter.risk.authoritativePositionQuantities.entries ≠
      (overtaken.foldl step ⟨init account (some 8), {}⟩).record.positions.entries := by
    decide
  exact hd (congrArg _ (he hc).1)

end RiskHistory

end Hepta
