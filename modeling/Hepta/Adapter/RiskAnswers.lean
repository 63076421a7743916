import Hepta.Library.Guarded
import Hepta.Adapter.Wiring

/-!
# The answers to a risk refresh

The wrapper compares the request id of an answer when it arrives; the adapter takes from the queue
whatever answer comes while a request is pending. A history records what was delivered since the
last refresh issued its requests. Where no answer is left in the queue at that moment, a complete
snapshot holds what was delivered for them.
-/

namespace Hepta

open List HeptaIBGatewayAdapter

/-! ### The history -/

def isPositionAnswer (e : IBEvent) : Bool := e.type = .positionSnapshotItem || e.type = .positionEnd

def isCashAnswer (e : IBEvent) : Bool :=
  e.type = .accountSummaryEnd || (e.type = .accountValue && cashKey.isPrefixOf e.key.toList)

def collectPosition (positions : Dict String Double) (e : IBEvent) : Dict String Double :=
  positions.insert e.key e.number

def collectBalance (cfg : HeptaIBConfig) (balances : Dict String Double) (e : IBEvent) :
    Dict String Double :=
  let currency := String.ofList (e.key.toList.drop cashKey.length)
  match cfg.fxInstrumentByBaseCurrency.lookup currency, strtod e.value with
  | some _, some balance => balances.insert currency balance
  | _, _ => balances

/-- What was delivered since the last risk refresh was issued. -/
structure RiskRecord where
  delivered : List IBEvent := []
  accountRequest : Int := 0
  positionsRequest : Int := 0
  /-- The fills that were counted when the requests were issued. -/
  exposureGeneration : ℕ := 0

namespace RiskRecord

def positions (d : RiskRecord) : Dict String Double :=
  (d.delivered.filter fun e =>
    e.type = .positionSnapshotItem && e.requestId = d.positionsRequest).foldl collectPosition ∅

/-- The balances that were delivered for the account request before its end. -/
def balances (d : RiskRecord) (cfg : HeptaIBConfig) : Dict String Double :=
  ((d.delivered.filter fun e => isCashAnswer e && e.id = d.accountRequest).takeWhile fun e =>
    e.type = .accountValue).foldl (collectBalance cfg) ∅

end RiskRecord

structure RiskHistory where
  adapter : HeptaIBGatewayAdapter
  record : RiskRecord := {}

namespace RiskHistory

/-- The action issues the two requests of a risk refresh. -/
def issues (a : HeptaIBGatewayAdapter) : Action → Bool
  | .reqRiskRefresh => a.reqRiskRefresh.1
  | .reqRecoveryAuditRiskRefresh => a.reqRecoveryAuditRiskRefresh.1
  | _ => false

/-- The event that the action adds to the queue. -/
def delivered (a : HeptaIBGatewayAdapter) : Action → Option IBEvent
  | .callback c => a.api.bind fun api => api.delivered c
  | _ => none

def step (t : RiskHistory) (action : Action) : RiskHistory :=
  let adapter := t.adapter.step action
  if issues t.adapter action then
    { adapter
      record :=
        { accountRequest := (adapter.api.map Api.activeAccountUpdatesReqId).getD 0
          positionsRequest := (adapter.api.map Api.activePositionsRequestId).getD 0
          exposureGeneration := t.adapter.exposureGeneration } }
  else
    { adapter
      record := { t.record with
        delivered := t.record.delivered ++ (delivered t.adapter action).toList } }

/-- A complete snapshot holds exactly what was delivered for its own requests, and absorbs only fills
that were observed before the requests were issued. -/
def Exact (t : RiskHistory) : Prop :=
  t.adapter.risk.snapshot.coherentRefreshComplete = true →
    t.adapter.risk.authoritativePositionQuantities = t.record.positions ∧
      t.adapter.risk.authoritativeFxCashBalances = t.record.balances t.adapter.cfg ∧
      t.adapter.risk.snapshot.riskAbsorbedExposureGeneration ≤ t.record.exposureGeneration

/-- The callback is not one of a subscription to the account or the portfolio. -/
def Unsubscribed : Api.Callback → Prop
  | .updateAccountValue key _ currency _ =>
    cashKey.isPrefixOf (key ++ ":" ++ currency).toList = false
  | .other e _ => e.type ≠ .portfolioUpdate
  | _ => True

/-- No answer is left in the queue when the requests are issued, and the account and the portfolio
are not subscribed to besides. -/
def Undisturbed (t : RiskHistory) : Action → Prop
  | .callback c => Unsubscribed c
  | action =>
    issues t.adapter action = true →
      ∀ api ∈ t.adapter.api, ∀ e ∈ api.queue.events,
        isPositionAnswer e = false ∧ isCashAnswer e = false

end RiskHistory

/-! ### What the wrapper delivers -/

namespace Api

variable {api : Api} {c : Callback} {e : IBEvent}

lemma delivered_spec (h : api.delivered c = some e) :
    (isPositionAnswer e = true →
      api.positionsInitialDownloadPending = true ∧ e.requestId = api.activePositionsRequestId ∧
        e.account = api.account ∧
        (e.type = .positionEnd → (api.receive c).2.positionsInitialDownloadPending = false)) ∧
      (RiskHistory.Unsubscribed c →
        (isCashAnswer e = true → e.id = api.activeAccountUpdatesReqId ∧ e.account = api.account) ∧
          e.type ≠ .portfolioUpdate) := by
  simp only [delivered, Option.map_eq_some_iff] at h
  obtain ⟨e', hr, rfl⟩ := h
  change (isPositionAnswer e' = true → _) ∧ (_ → (isCashAnswer e' = true → _) ∧
    e'.type ≠ .portfolioUpdate)
  cases c with
  | updateAccountValue =>
    simp only [receive, Option.some.injEq] at hr
    subst hr
    refine ⟨by simp [isPositionAnswer, updateAccountValue], fun hu => ⟨?_, ?_⟩⟩
    · intro ha
      simp only [RiskHistory.Unsubscribed] at hu
      simp only [isCashAnswer, updateAccountValue, hu, Bool.and_false] at ha
      cases ha
    · simp [updateAccountValue]
  | accountUpdateMulti reqId account key value currency =>
    simp only [receive, accountUpdateMulti] at hr
    split at hr
    · cases hr
    rename_i hg
    push Not at hg
    cases hr
    exact ⟨by simp [isPositionAnswer], fun _ => ⟨fun _ => hg, by simp⟩⟩
  | accountUpdateMultiEnd =>
    simp only [receive, accountUpdateMultiEnd] at hr
    split_ifs at hr
    cases hr
    exact ⟨by simp [isPositionAnswer], fun _ => ⟨fun _ => ⟨rfl, rfl⟩, by simp⟩⟩
  | positionMulti reqId account modelCode key con pos =>
    simp only [receive, positionMulti] at hr
    split at hr
    · cases hr
    split at hr
    · cases hr
    rename_i hg
    push Not at hg
    cases hr
    cases ho : api.positionsInitialDownloadPending with
    | false => simp [isPositionAnswer, isCashAnswer]
    | true =>
      refine ⟨fun _ => ⟨rfl, hg.2.2.1, hg.2.2.2.1, ?_⟩, fun _ => ?_⟩
      · simp [stamp]
      · simp [isCashAnswer]
  | positionMultiEnd reqId =>
    simp only [receive, positionMultiEnd] at hr ⊢
    split at hr
    · cases hr
    rename_i hg
    rw [if_neg hg]
    push Not at hg
    cases hr
    exact ⟨fun _ => ⟨by simpa using hg.2.1, hg.2.2.2, rfl, fun _ => rfl⟩,
      fun _ => by simp [isCashAnswer]⟩
  | connectionClosed =>
    simp only [receive, Option.some.injEq] at hr
    subst hr
    exact ⟨by simp [isPositionAnswer], fun _ => by simp [isCashAnswer]⟩
  | dropped => simp [receive] at hr
  | other e'' he =>
    simp only [receive, Option.some.injEq] at hr
    subst hr
    have hs := he.1
    refine ⟨fun ha => ?_, fun hu => ⟨fun ha => ?_, hu⟩⟩
    · simp only [isPositionAnswer, Bool.or_eq_true, decide_eq_true_eq] at ha
      rcases ha with ht | ht <;> simp [ht, isRiskType] at hs
    · simp only [isCashAnswer, Bool.or_eq_true, Bool.and_eq_true, decide_eq_true_eq] at ha
      rcases ha with ht | ⟨ht, -⟩ <;> simp [ht, isRiskType] at hs

lemma receive_account_request :
    (api.receive c).2.activeAccountUpdatesReqId = api.activeAccountUpdatesReqId := by
  cases c <;> simp only [receive, accountUpdateMultiEnd, positionMultiEnd, connectionClosed] <;>
    (try split_ifs) <;> rfl

lemma receive_positions_open (h : (api.receive c).2.positionsInitialDownloadPending = true) :
    api.positionsInitialDownloadPending = true ∧
      (api.receive c).2.activePositionsRequestId = api.activePositionsRequestId := by
  cases c <;>
    simp only [receive, accountUpdateMultiEnd, positionMultiEnd, connectionClosed] at h ⊢ <;>
    (try split_ifs at h ⊢) <;> simp_all

end Api

/-! ### The invariant -/

def RiskView.Idle (r : RiskView) : Prop :=
  r.coherentRiskRefreshPending = false ∧ r.snapshot.coherentRefreshComplete = false

/-- What the wrapper has delivered belongs to the requests. -/
structure Deliveries (d : RiskRecord) (api : Api) : Prop where
  position : ∀ e ∈ d.delivered, isPositionAnswer e = true →
    e.requestId = d.positionsRequest ∧ e.account = api.account
  cash : ∀ e ∈ d.delivered, isCashAnswer e = true →
    e.id = d.accountRequest ∧ e.account = api.account
  accountRequest : api.activeAccountUpdatesReqId = d.accountRequest
  positionsRequest : api.positionsInitialDownloadPending = true →
    api.activePositionsRequestId = d.positionsRequest ∧ ∀ e ∈ d.delivered, e.type ≠ .positionEnd
  /-- Nothing follows the end of the positions. -/
  last : ∀ front e back, d.delivered.filter isPositionAnswer = front ++ e :: back →
    e.type = .positionEnd → back = []

/-- The positions are being downloaded: what was delivered has been taken, or is in the queue. -/
structure PositionsOpen (d : RiskRecord) (q : IBAuthoritativeEventQueue) (r : RiskView) : Prop where
  pending : r.positionsRefreshPending = true
  taken : ∃ done,
    (q.lossless →
      d.delivered.filter isPositionAnswer = done ++ q.events.filter isPositionAnswer) ∧
    (∀ e ∈ done, e.type = .positionSnapshotItem) ∧
    (r.positionsRefreshConflict = false →
      r.pendingPositionQuantities = done.foldl collectPosition ∅)

structure PositionsHeld (d : RiskRecord) (r : RiskView) : Prop where
  closed : r.positionsRefreshPending = false
  held : r.snapshot.positionsComplete = true →
    r.authoritativePositionQuantities = d.positions ∧ ∃ e ∈ d.delivered, e.type = .positionEnd

/-- The account is being downloaded. -/
structure CashOpen (d : RiskRecord) (cfg : HeptaIBConfig) (q : IBAuthoritativeEventQueue)
    (r : RiskView) : Prop where
  pending : r.accountRefreshPending = true
  conflict : r.fxCashRefreshConflict = true → cfg.fxEmpty = false
  taken : ∃ done,
    (q.lossless → d.delivered.filter isCashAnswer = done ++ q.events.filter isCashAnswer) ∧
    (∀ e ∈ done, e.type = .accountValue) ∧
    (r.fxCashRefreshConflict = false →
      r.pendingFxCashBalances = done.foldl (collectBalance cfg) ∅)

structure CashHeld (d : RiskRecord) (cfg : HeptaIBConfig) (r : RiskView) : Prop where
  closed : r.accountRefreshPending = false
  held : r.snapshot.accountComplete = true →
    r.authoritativeFxCashBalances = d.balances cfg ∧
      ∃ e ∈ d.delivered, e.type = .accountSummaryEnd

structure Completed (d : RiskRecord) (r : RiskView) : Prop where
  notPending : r.coherentRiskRefreshPending = false
  positionsClosed : r.positionsRefreshPending = false
  positionsComplete : r.snapshot.positionsComplete = true
  accountClosed : r.accountRefreshPending = false
  accountComplete : r.snapshot.accountComplete = true
  absorbed : r.snapshot.riskAbsorbedExposureGeneration = d.exposureGeneration

structure Answered (d : RiskRecord) (cfg : HeptaIBConfig) (api : Api) (r : RiskView) : Prop where
  deliveries : Deliveries d api
  account : api.account = cfg.account
  accountSet : cfg.account ≠ ""
  positions : PositionsOpen d api.queue r ∨ PositionsHeld d r
  cash : CashOpen d cfg api.queue r ∨ CashHeld d cfg r
  exposure : r.coherentRiskRefreshPending = true →
    r.coherentRiskRefreshExposureGeneration = d.exposureGeneration
  complete : r.snapshot.coherentRefreshComplete = true → Completed d r

namespace Deliveries

variable {d : RiskRecord} {api : Api}

lemma positions_eq (h : Deliveries d api) {done rest : List IBEvent} {e : IBEvent}
    (hd : d.delivered.filter isPositionAnswer = done ++ e :: rest)
    (hdn : ∀ e ∈ done, e.type = .positionSnapshotItem) (he : e.type = .positionEnd) :
    d.positions = done.foldl collectPosition ∅ := by
  obtain rfl := h.last done e rest hd he
  have hf : (d.delivered.filter fun e =>
      e.type = .positionSnapshotItem && e.requestId = d.positionsRequest) =
      (d.delivered.filter isPositionAnswer).filter fun e => e.type = .positionSnapshotItem := by
    rw [List.filter_filter]
    apply filter_congr
    intro x hx
    by_cases hi : x.type = .positionSnapshotItem
    · have ha : isPositionAnswer x = true := by simp [isPositionAnswer, hi]
      simp [hi, ha, (h.position x hx ha).1]
    · simp [hi]
  have ht : done.filter (fun e => e.type = .positionSnapshotItem) = done :=
    List.filter_eq_self.mpr fun x hx => decide_eq_true (hdn x hx)
  rw [RiskRecord.positions, hf, hd, filter_append, ht]
  simp [he]

lemma filter_cash (h : Deliveries d api) :
    (d.delivered.filter fun e => isCashAnswer e && e.id = d.accountRequest) =
      d.delivered.filter isCashAnswer := by
  apply filter_congr
  intro x hx
  cases ha : isCashAnswer x with
  | false => rfl
  | true => simp [(h.cash x hx ha).1]

lemma balances_eq (h : Deliveries d api) (cfg : HeptaIBConfig) {done rest : List IBEvent}
    {e : IBEvent} (hd : d.delivered.filter isCashAnswer = done ++ e :: rest)
    (hdn : ∀ e ∈ done, e.type = .accountValue) (he : e.type = .accountSummaryEnd) :
    d.balances cfg = done.foldl (collectBalance cfg) ∅ := by
  rw [RiskRecord.balances, h.filter_cash, hd,
    takeWhile_append_of_pos fun x hx => decide_eq_true (hdn x hx),
    takeWhile_cons_of_neg (by simp [he]), append_nil]

end Deliveries

/-! ### Callbacks -/

def RiskRecord.deliver (d : RiskRecord) (event : Option IBEvent) : RiskRecord :=
  { d with delivered := d.delivered ++ event.toList }

namespace Deliveries

variable {d : RiskRecord} {api : Api} {c : Api.Callback}

lemma filter_position_of_end (h : Deliveries d api) (hen : ∃ e ∈ d.delivered, e.type = .positionEnd) :
    (api.delivered c).toList.filter isPositionAnswer = [] := by
  rw [filter_eq_nil_iff]
  intro x hx ha
  have hd : api.delivered c = some x := by simpa using hx
  obtain ⟨ho, -⟩ := (Api.delivered_spec hd).1 ha
  obtain ⟨e, he, ht⟩ := hen
  exact (h.positionsRequest ho).2 e he ht

lemma callback (h : Deliveries d api) (hu : RiskHistory.Unsubscribed c) :
    Deliveries (d.deliver (api.delivered c)) (api.callback c) := by
  have hf {β : Type} (field : Api → β) (hst : ∀ api queue, field { api with queue } = field api) :
      field (api.callback c) = field (api.receive c).2 := Api.callback_eq field hst
  have hao : (api.callback c).account = api.account := by
    rw [hf Api.account fun _ _ => rfl, Api.receive_account]
  constructor
  · intro e he ha
    rw [hao]
    rcases List.mem_append.mp he with he | he
    · exact h.position e he ha
    · have hd : api.delivered c = some e := by simpa using he
      obtain ⟨ho, hi, hac, -⟩ := (Api.delivered_spec hd).1 ha
      exact ⟨hi.trans (h.positionsRequest ho).1, hac⟩
  · intro e he ha
    rw [hao]
    rcases List.mem_append.mp he with he | he
    · exact h.cash e he ha
    · have hd : api.delivered c = some e := by simpa using he
      obtain ⟨hi, hac⟩ := ((Api.delivered_spec hd).2 hu).1 ha
      exact ⟨hi.trans h.accountRequest, hac⟩
  · rw [hf Api.activeAccountUpdatesReqId fun _ _ => rfl, Api.receive_account_request]
    exact h.accountRequest
  · intro ho
    rw [hf Api.positionsInitialDownloadPending fun _ _ => rfl] at ho
    obtain ⟨hb, hi⟩ := Api.receive_positions_open ho
    rw [hf Api.activePositionsRequestId fun _ _ => rfl, hi]
    refine ⟨(h.positionsRequest hb).1, ?_⟩
    intro e he ht
    rcases List.mem_append.mp he with he | he
    · exact (h.positionsRequest hb).2 e he ht
    · have hd : api.delivered c = some e := by simpa using he
      have hc := ((Api.delivered_spec hd).1
        (by simp [isPositionAnswer, ht])).2.2.2 ht
      simp [hc] at ho
  · intro front e back hs hen
    by_cases hb : ∃ e ∈ d.delivered, e.type = .positionEnd
    · apply h.last front e back _ hen
      rw [← hs, RiskRecord.deliver, filter_append, h.filter_position_of_end hb, append_nil]
    · -- the end is the event that was just delivered
      push Not at hb
      rcases eq_nil_or_concat back with rfl | ⟨back, last, rfl⟩
      · rfl
      exfalso
      have hm : e ∈ d.delivered.filter isPositionAnswer := by
        rw [RiskRecord.deliver, filter_append] at hs
        have hl : (api.delivered c).toList.filter isPositionAnswer = [] ∨
            ∃ x, (api.delivered c).toList.filter isPositionAnswer = [x] := by
          cases api.delivered c with
          | none => simp
          | some x => by_cases hx : isPositionAnswer x = true <;> simp [hx]
        rcases hl with hnl | ⟨x, hx⟩
        · rw [hnl, append_nil] at hs
          rw [hs]
          simp
        · rw [hx, concat_eq_append, ← cons_append, ← append_assoc] at hs
          rw [(append_inj_left' hs rfl)]
          simp
      exact hb e (mem_of_mem_filter hm) hen

lemma balances_deliver (h : Deliveries d api) (cfg : HeptaIBConfig)
    (hen : ∃ e ∈ d.delivered, e.type = .accountSummaryEnd) :
    (d.deliver (api.delivered c)).balances cfg = d.balances cfg := by
  obtain ⟨e, he, ht⟩ := hen
  have ha : isCashAnswer e = true := by simp [isCashAnswer, ht]
  have hm : e ∈ d.delivered.filter fun e => isCashAnswer e && e.id = d.accountRequest := by
    simp [he, ha, (h.cash e he ha).1]
  obtain ⟨front, _, hs⟩ := append_of_mem hm
  unfold RiskRecord.balances RiskRecord.deliver
  simp only
  rw [filter_append, hs, append_assoc, cons_append]
  congr 1
  clear hs hm
  induction front with
  | nil => simp [ht]
  | cons x front ih => by_cases hx : x.type = .accountValue <;> simp [hx, ih]

lemma positions_deliver (h : Deliveries d api) (he : ∃ e ∈ d.delivered, e.type = .positionEnd) :
    (d.deliver (api.delivered c)).positions = d.positions := by
  have hnone := @filter_position_of_end d api c h he
  unfold RiskRecord.positions RiskRecord.deliver
  simp only
  rw [filter_append]
  have ht : (api.delivered c).toList.filter (fun e =>
      e.type = .positionSnapshotItem && e.requestId = d.positionsRequest) = [] := by
    rw [filter_eq_nil_iff] at hnone ⊢
    intro x hx hi
    apply hnone x hx
    simp only [Bool.and_eq_true, decide_eq_true_eq] at hi
    simp [isPositionAnswer, hi.1]
  rw [ht, append_nil]

end Deliveries

/-- As long as nothing is lost a callback appends what it delivers. -/
lemma Api.callback_events {api : Api} {c : Callback}
    (hr : api.queue.reportedOverflowGeneration ≤ api.queue.overflowGeneration)
    (h : (api.callback c).queue.lossless) :
    api.queue.lossless ∧ (api.callback c).queue.events = api.queue.events ++ (api.delivered c).toList := by
  rcases @callback_queue api c with ⟨e, hd, hq⟩ | ⟨hnn, hq | hq⟩
  · rw [hq] at h ⊢
    rw [hd]
    exact IBAuthoritativeEventQueue.push_events hr h
  · rw [hq] at h ⊢
    simpa [hnn] using h
  · rw [hq] at h
    simp only [IBAuthoritativeEventQueue.lossless, IBAuthoritativeEventQueue.recordDroppedEvent] at h
    omega

namespace Answered

variable {d : RiskRecord} {cfg : HeptaIBConfig} {api : Api} {r : RiskView} {c : Api.Callback}

lemma callback (h : Answered d cfg api r) (hu : RiskHistory.Unsubscribed c)
    (hr : api.queue.reportedOverflowGeneration ≤ api.queue.overflowGeneration) :
    Answered (d.deliver (api.delivered c)) cfg (api.callback c) r where
  deliveries := h.deliveries.callback hu
  account := by
    rw [Api.callback_eq Api.account fun _ _ => rfl, Api.receive_account]
    exact h.account
  accountSet := h.accountSet
  positions := by
    rcases h.positions with ho | hh
    · obtain ⟨done, hd, hi, hp⟩ := ho.taken
      refine .inl ⟨ho.pending, done, ?_, hi, hp⟩
      intro hl
      obtain ⟨hb, hv⟩ := Api.callback_events hr hl
      rw [hv, RiskRecord.deliver, filter_append, filter_append, hd hb, append_assoc]
    · refine .inr ⟨hh.closed, ?_⟩
      intro hc
      obtain ⟨heq, e, he, ht⟩ := hh.held hc
      exact ⟨heq.trans (h.deliveries.positions_deliver ⟨e, he, ht⟩).symm, e,
        mem_append_left _ he, ht⟩
  cash := by
    rcases h.cash with ho | hh
    · obtain ⟨done, hd, hi, hp⟩ := ho.taken
      refine .inl ⟨ho.pending, ho.conflict, done, ?_, hi, hp⟩
      intro hl
      obtain ⟨hb, hv⟩ := Api.callback_events hr hl
      rw [hv, RiskRecord.deliver, filter_append, filter_append, hd hb, append_assoc]
    · refine .inr ⟨hh.closed, ?_⟩
      intro hc
      obtain ⟨heq, e, he, ht⟩ := hh.held hc
      exact ⟨heq.trans (h.deliveries.balances_deliver cfg ⟨e, he, ht⟩).symm, e,
        mem_append_left _ he, ht⟩
  exposure := h.exposure
  complete hc := by
    obtain ⟨h₁, h₂, h₃, h₄, h₅, h₆⟩ := h.complete hc
    exact ⟨h₁, h₂, h₃, h₄, h₅, h₆⟩

/-- Nothing changes for a wrapper that keeps its queue and at most closes the download. -/
lemma of_api {api' : Api} (h : Answered d cfg api r) (hq : api'.queue = api.queue)
    (ha : api'.account = api.account)
    (hr : api'.activeAccountUpdatesReqId = api.activeAccountUpdatesReqId)
    (ho : api'.positionsInitialDownloadPending = true → api.positionsInitialDownloadPending = true ∧
        api'.activePositionsRequestId = api.activePositionsRequestId) : Answered d cfg api' r where
  deliveries :=
    { position := by
        rw [ha]
        exact h.deliveries.position
      cash := by
        rw [ha]
        exact h.deliveries.cash
      accountRequest := hr.trans h.deliveries.accountRequest
      positionsRequest := by
        intro hp
        obtain ⟨hb, hi⟩ := ho hp
        rw [hi]
        exact h.deliveries.positionsRequest hb
      last := h.deliveries.last }
  account := ha.trans h.account
  accountSet := h.accountSet
  positions := by
    rw [hq]
    exact h.positions
  cash := by
    rw [hq]
    exact h.cash
  exposure := h.exposure
  complete := h.complete

lemma disconnect (h : Answered d cfg api r) : Answered d cfg api.disconnect r := by
  apply h.of_api
  · unfold Api.disconnect
    split_ifs <;> rfl
  · unfold Api.disconnect
    split_ifs <;> rfl
  · unfold Api.disconnect
    split_ifs <;> rfl
  · unfold Api.disconnect
    split
    · exact fun ho => ⟨ho, rfl⟩
    by_cases ha : api.positionsSubscribed = true ∧ 0 < api.activePositionsRequestId
    · simp [ha.1, ha.2]
    · simp only [if_neg ha, Bool.and_eq_true]
      exact fun ho => ⟨ho.1, trivial⟩

end Answered

/-! ### Taking an answer -/

structure SamePositions (r r' : RiskView) : Prop where
  pending : r'.positionsRefreshPending = r.positionsRefreshPending
  conflict : r'.positionsRefreshConflict = r.positionsRefreshConflict
  quantities : r'.pendingPositionQuantities = r.pendingPositionQuantities
  complete : r'.snapshot.positionsComplete = r.snapshot.positionsComplete
  authoritative : r'.authoritativePositionQuantities = r.authoritativePositionQuantities

structure SameCash (r r' : RiskView) : Prop where
  pending : r'.accountRefreshPending = r.accountRefreshPending
  conflict : r'.fxCashRefreshConflict = r.fxCashRefreshConflict
  balances : r'.pendingFxCashBalances = r.pendingFxCashBalances
  complete : r'.snapshot.accountComplete = r.snapshot.accountComplete
  authoritative : r'.authoritativeFxCashBalances = r.authoritativeFxCashBalances

/-- The queue after its first event was taken. -/
def IBAuthoritativeEventQueue.pop (q : IBAuthoritativeEventQueue) (rest : List IBEvent) :
    IBAuthoritativeEventQueue :=
  { q with events := rest }

section Part

variable {d : RiskRecord} {cfg : HeptaIBConfig} {q q' : IBAuthoritativeEventQueue} {r r' : RiskView}

lemma PositionsOpen.congr (h : PositionsOpen d q r) (hs : SamePositions r r')
    (hl : q'.lossless → q.lossless)
    (he : q'.events.filter isPositionAnswer = q.events.filter isPositionAnswer) :
    PositionsOpen d q' r' := by
  obtain ⟨done, hd, hi, hqn⟩ := h.taken
  refine ⟨hs.pending.trans h.pending, done, ?_, hi, ?_⟩
  · intro hq
    rw [he, hd (hl hq)]
  · intro hc
    rw [hs.quantities, hqn (hs.conflict ▸ hc)]

lemma PositionsHeld.congr (h : PositionsHeld d r) (hs : SamePositions r r') :
    PositionsHeld d r' := by
  refine ⟨hs.pending.trans h.closed, ?_⟩
  intro hc
  rw [hs.authoritative]
  exact h.held (hs.complete ▸ hc)

lemma CashOpen.congr (h : CashOpen d cfg q r) (hs : SameCash r r') (hl : q'.lossless → q.lossless)
    (he : q'.events.filter isCashAnswer = q.events.filter isCashAnswer) : CashOpen d cfg q' r' := by
  obtain ⟨done, hd, hi, hb⟩ := h.taken
  refine ⟨hs.pending.trans h.pending, ?_, done, ?_, hi, ?_⟩
  · rw [hs.conflict]
    exact h.conflict
  · intro hq
    rw [he, hd (hl hq)]
  · intro hc
    rw [hs.balances, hb (hs.conflict ▸ hc)]

lemma CashHeld.congr (h : CashHeld d cfg r) (hs : SameCash r r') : CashHeld d cfg r' := by
  refine ⟨hs.pending.trans h.closed, ?_⟩
  intro hc
  rw [hs.authoritative]
  exact h.held (hs.complete ▸ hc)

end Part

namespace Answered

variable {d : RiskRecord} {cfg : HeptaIBConfig} {api : Api} {r r' : RiskView} {e : IBEvent}
  {rest : List IBEvent}

variable (h : Answered d cfg api r)

include h

lemma mem_position (hp : r.positionsRefreshPending = true)
    (hl : api.queue.lossless) (he : api.queue.events = e :: rest)
    (ha : isPositionAnswer e = true) : e ∈ d.delivered ∧ e.account = cfg.account := by
  have hm : e ∈ d.delivered := by
    rcases h.positions with ho | hh
    · obtain ⟨_, hd, -⟩ := ho.taken
      apply mem_of_mem_filter (p := isPositionAnswer)
      rw [hd hl, he, filter_cons_of_pos ha]
      simp
    · simp [hh.closed] at hp
  exact ⟨hm, (h.deliveries.position e hm ha).2.trans h.account⟩

lemma mem_cash (hp : r.accountRefreshPending = true)
    (hl : api.queue.lossless) (he : api.queue.events = e :: rest)
    (ha : isCashAnswer e = true) : e ∈ d.delivered ∧ e.account = cfg.account := by
  have hm : e ∈ d.delivered := by
    rcases h.cash with ho | hh
    · obtain ⟨_, hd, -⟩ := ho.taken
      apply mem_of_mem_filter (p := isCashAnswer)
      rw [hd hl, he, filter_cons_of_pos ha]
      simp
    · simp [hh.closed] at hp
  exact ⟨hm, (h.deliveries.cash e hm ha).2.trans h.account⟩

lemma pop_positions (he : api.queue.events = e :: rest)
    (hoh : r.positionsRefreshPending = true → isPositionAnswer e = false) (hs : SamePositions r r')
    : PositionsOpen d (api.queue.pop rest) r' ∨ PositionsHeld d r' := by
  rcases h.positions with ho | hh
  · refine .inl (ho.congr hs id ?_)
    rw [he, filter_cons_of_neg (by simp [hoh ho.pending])]
    rfl
  · exact .inr (hh.congr hs)

lemma pop_cash (he : api.queue.events = e :: rest)
    (hoh : r.accountRefreshPending = true → isCashAnswer e = false) (hs : SameCash r r') :
    CashOpen d cfg (api.queue.pop rest) r' ∨ CashHeld d cfg r' := by
  rcases h.cash with ho | hh
  · refine .inl (ho.congr hs id ?_)
    rw [he, filter_cons_of_neg (by simp [hoh ho.pending])]
    rfl
  · exact .inr (hh.congr hs)

lemma rejoin (hp : PositionsOpen d (api.queue.pop rest) r' ∨ PositionsHeld d r')
    (hc : CashOpen d cfg (api.queue.pop rest) r' ∨ CashHeld d cfg r')
    (he : r'.coherentRiskRefreshPending = true →
      r'.coherentRiskRefreshExposureGeneration = d.exposureGeneration)
    (hm : r'.snapshot.coherentRefreshComplete = true → Completed d r') :
    Answered d cfg { api with queue := api.queue.pop rest } r' where
  deliveries := ⟨h.deliveries.position, h.deliveries.cash, h.deliveries.accountRequest,
    h.deliveries.positionsRequest, h.deliveries.last⟩
  account := h.account
  accountSet := h.accountSet
  positions := hp
  cash := hc
  exposure := he
  complete := hm

lemma pop (he : api.queue.events = e :: rest)
    (hp : r.positionsRefreshPending = true → isPositionAnswer e = false)
    (hc : r.accountRefreshPending = true → isCashAnswer e = false) :
    Answered d cfg { api with queue := api.queue.pop rest } r :=
  h.rejoin (h.pop_positions he hp ⟨rfl, rfl, rfl, rfl, rfl⟩)
    (h.pop_cash he hc ⟨rfl, rfl, rfl, rfl, rfl⟩) h.exposure h.complete

lemma not_complete (hp : r.positionsRefreshPending = true ∨ r.accountRefreshPending = true) :
    r.snapshot.coherentRefreshComplete = false := by
  cases hm : r.snapshot.coherentRefreshComplete with
  | false => rfl
  | true =>
    have hc := h.complete hm
    simp [hc.positionsClosed, hc.accountClosed] at hp

lemma positionItem (hp : r.positionsRefreshPending = true)
    (hl : api.queue.lossless) (he : api.queue.events = e :: rest)
    (ht : e.type = .positionSnapshotItem) :
    Answered d cfg { api with queue := api.queue.pop rest } (r.positionItem e) := by
  have hc : isCashAnswer e = false := by simp [isCashAnswer, ht]
  have hi := h.not_complete (.inl hp)
  have ho : PositionsOpen d (api.queue.pop rest) (r.positionItem e) := by
    rcases h.positions with ho | hh
    · obtain ⟨done, hd, hit, hq⟩ := ho.taken
      refine ⟨?_, done ++ [e], ?_, ?_, ?_⟩
      · unfold RiskView.positionItem
        split_ifs <;> exact hp
      · intro _
        rw [hd hl, he,
          filter_cons_of_pos (by simp [isPositionAnswer, ht]), append_assoc]
        rfl
      · intro x hx
        rcases List.mem_append.mp hx with hx | hx
        · exact hit x hx
        · exact (List.mem_singleton.mp hx) ▸ ht
      · rw [foldl_append]
        unfold RiskView.positionItem
        split_ifs
        · simp
        · simp
        · intro hcn
          rw [← hq hcn]
          rfl
    · simp [hh.closed] at hp
  apply h.rejoin (.inl ho)
  · apply h.pop_cash he fun _ => hc
    unfold RiskView.positionItem
    split_ifs <;> exact ⟨rfl, rfl, rfl, rfl, rfl⟩
  · unfold RiskView.positionItem
    split_ifs <;> exact h.exposure
  · have hs : (r.positionItem e).snapshot.coherentRefreshComplete =
        r.snapshot.coherentRefreshComplete := by
      unfold RiskView.positionItem
      split_ifs <;> rfl
    simp [hs, hi]

lemma completePositions (hp : r.positionsRefreshPending = true)
    (hl : api.queue.lossless) (he : api.queue.events = e :: rest)
    (ht : e.type = .positionEnd) (cep : ℕ) (auth : Bool) :
    Answered d cfg { api with queue := api.queue.pop rest }
      (r.completePositions cep auth) := by
  have han : isPositionAnswer e = true := by simp [isPositionAnswer, ht]
  have hcs : isCashAnswer e = false := by simp [isCashAnswer, ht]
  have hi := h.not_complete (.inl hp)
  have hh : PositionsHeld d (r.completePositions cep auth) := by
    refine ⟨rfl, ?_⟩
    intro hc
    have ha : (auth && !r.positionsRefreshConflict) = true := hc
    refine ⟨?_, e, (h.mem_position hp hl he han).1, ht⟩
    rcases h.positions with ho | hh
    · obtain ⟨done, hdn, hit, hq⟩ := ho.taken
      have hd : d.delivered.filter isPositionAnswer =
          done ++ e :: rest.filter isPositionAnswer := by
        rw [hdn hl, he, filter_cons_of_pos han]
      rw [h.deliveries.positions_eq hd hit ht, ← hq]
      · exact if_pos ha
      · simp only [Bool.and_eq_true, Bool.not_eq_true'] at ha
        exact ha.2
    · simp [hh.closed] at hp
  apply h.rejoin (.inr hh) (h.pop_cash he (fun _ => hcs) ⟨rfl, rfl, rfl, rfl, rfl⟩) h.exposure
  intro hc
  have hs : r.snapshot.coherentRefreshComplete = true := hc
  simp [hi] at hs

lemma completeAccount (hp : r.accountRefreshPending = true)
    (hl : api.queue.lossless) (he : api.queue.events = e :: rest)
    (ht : e.type = .accountSummaryEnd) (cep : ℕ) (auth : Bool) :
    Answered d cfg { api with queue := api.queue.pop rest }
      (r.completeAccount cfg cep auth) := by
  have ha : isCashAnswer e = true := by simp [isCashAnswer, ht]
  have hps : isPositionAnswer e = false := by simp [isPositionAnswer, ht]
  have hi := h.not_complete (.inr hp)
  have hh : CashHeld d cfg (r.completeAccount cfg cep auth) := by
    refine ⟨?_, ?_⟩
    · simp only [RiskView.completeAccount]
      split_ifs <;> rfl
    intro hc
    refine ⟨?_, e, (h.mem_cash hp hl he ha).1, ht⟩
    rcases h.cash with ho | hh
    · obtain ⟨done, hdn, hit, hb⟩ := ho.taken
      have hd : d.delivered.filter isCashAnswer =
          done ++ e :: rest.filter isCashAnswer := by
        rw [hdn hl, he, filter_cons_of_pos ha]
      rw [h.deliveries.balances_eq cfg hd hit ht, ← hb]
      · simp only [RiskView.completeAccount] at hc ⊢
        split_ifs at hc ⊢
        · rfl
        · simp [RiskView.rejectAccount] at hc
      · -- a conflict is recorded where there are cash instruments only
        cases hcn : r.fxCashRefreshConflict with
        | false => rfl
        | true =>
          have hf := ho.conflict hcn
          simp [RiskView.completeAccount, RiskView.hasCompletePendingFxCashSnapshot, hf,
            hcn, RiskView.rejectAccount] at hc
    · simp [hh.closed] at hp
  apply h.rejoin _ (.inr hh)
  · simp only [RiskView.completeAccount]
    split_ifs <;> exact h.exposure
  · have hs : (r.completeAccount cfg cep auth).snapshot.coherentRefreshComplete =
        r.snapshot.coherentRefreshComplete := by
      simp only [RiskView.completeAccount]
      split_ifs <;> rfl
    simp [hs, hi]
  · apply h.pop_positions he fun _ => hps
    simp only [RiskView.completeAccount]
    split_ifs <;> exact ⟨rfl, rfl, rfl, rfl, rfl⟩

end Answered

lemma not_readyKey_of_cashKey {key : List Char} (h : cashKey.isPrefixOf key = true) :
    readyKey.isPrefixOf key = false := by
  have hc : cashKey = 'C' :: "ashBalance:".toList := by decide
  have hr : readyKey = 'A' :: "ccountReady:".toList := by decide
  rw [hc] at h
  rw [hr]
  cases key with
  | nil => rfl
  | cons =>
    simp only [isPrefixOf_cons_cons, Bool.and_eq_true, beq_iff_eq] at h ⊢
    simp [← h.1]

lemma collectBalance_of_fxEmpty {cfg : HeptaIBConfig} (h : cfg.fxEmpty = true)
    (balances : Dict String Double) (e : IBEvent) : collectBalance cfg balances e = balances := by
  have he : cfg.fxInstrumentByBaseCurrency = ∅ := by
    unfold HeptaIBConfig.fxEmpty at h
    apply AList.ext
    simpa using h
  simp [collectBalance, he]

lemma initialFxCashValue_spec (a : HeptaIBGatewayAdapter) (e : IBEvent) :
    ∃ conflict observed ready pending,
      a.initialFxCashValue e =
        { a.risk with
          fxCashRefreshConflict := conflict, accountReadyObserved := observed
          accountReady := ready, pendingFxCashBalances := pending } ∧
      (conflict = false → a.risk.fxCashRefreshConflict = false ∧
        pending = if readyKey.isPrefixOf e.key.toList then a.risk.pendingFxCashBalances
          else collectBalance a.cfg a.risk.pendingFxCashBalances e) := by
  unfold initialFxCashValue
  simp only
  split
  · split
    · exact ⟨_, _, _, _, rfl, by simp⟩
    · exact ⟨_, _, _, _, rfl, by simp +contextual⟩
  · simp only [collectBalance]
    cases hl : a.cfg.fxInstrumentByBaseCurrency.lookup
        (String.ofList (e.key.toList.drop cashKey.length)) with
    | none => exact ⟨_, _, _, _, rfl, by simp⟩
    | some =>
      cases hp : strtod e.value with
      | none => exact ⟨_, _, _, _, rfl, by simp⟩
      | some =>
        simp only [Option.isNone_some, Bool.false_eq_true, if_false]
        split
        · exact ⟨_, _, _, _, rfl, by simp⟩
        · exact ⟨_, _, _, _, rfl, fun hc => ⟨hc, rfl⟩⟩

namespace Answered

variable {d : RiskRecord} {api : Api} {e : IBEvent} {rest : List IBEvent} {a : HeptaIBGatewayAdapter}

lemma accountValue (h : Answered d a.cfg api a.risk) (hp : a.risk.accountRefreshPending = true)
    (hl : api.queue.lossless) (he : api.queue.events = e :: rest)
    (ht : e.type = .accountValue) (ha : e.account = a.cfg.account) :
    Answered d a.cfg { api with queue := api.queue.pop rest } (a.applyAccountValueRiskEvent e).risk := by
  have hps : isPositionAnswer e = false := by simp [isPositionAnswer, ht]
  have hin := h.not_complete (.inr hp)
  have hcs : isCashAnswer e = cashKey.isPrefixOf e.key.toList := by simp [isCashAnswer, ht]
  rcases h.cash with ho | hh
  swap
  · simp [hh.closed] at hp
  obtain ⟨done, hd, hi, hb⟩ := ho.taken
  -- what has been taken after this value
  have hd' : d.delivered.filter isCashAnswer =
      (if cashKey.isPrefixOf e.key.toList then done ++ [e] else done) ++ rest.filter isCashAnswer := by
    rw [hd hl, he]
    split_ifs with hk
    · rw [filter_cons_of_pos (hcs.trans hk), append_assoc]
      rfl
    · rw [filter_cons_of_neg (by rw [hcs]; exact hk)]
  have hi' : ∀ x ∈ (if cashKey.isPrefixOf e.key.toList then done ++ [e] else done),
      x.type = .accountValue := by
    intro x hx
    split_ifs at hx
    · rcases List.mem_append.mp hx with hx | hx
      · exact hi x hx
      · exact (List.mem_singleton.mp hx) ▸ ht
    · exact hi x hx
  unfold applyAccountValueRiskEvent
  rw [if_neg (by simp [ha]), if_pos hp]
  split
  · rename_i hf
    simp only [isFxCashValue, Bool.and_eq_true, Bool.not_eq_true', Bool.or_eq_true] at hf
    obtain ⟨conflict, observed, ready, pending, heq, hs⟩ := initialFxCashValue_spec a e
    simp only [heq]
    apply h.rejoin
    · exact h.pop_positions he (fun _ => hps) ⟨rfl, rfl, rfl, rfl, rfl⟩
    · refine .inl ⟨hp, fun _ => hf.1, _, fun _ => hd', hi', ?_⟩
      intro hc
      obtain ⟨hbf, hcl⟩ := hs hc
      simp only [hcl, hb hbf]
      by_cases hk : cashKey.isPrefixOf e.key.toList = true
      · simp [hk, not_readyKey_of_cashKey hk, foldl_append]
      · rw [if_pos (hf.2.resolve_right hk), if_neg hk]
    · exact h.exposure
    · simp [hin]
  · rename_i hf
    apply h.rejoin
    · exact h.pop_positions he (fun _ => hps) ⟨rfl, rfl, rfl, rfl, rfl⟩
    · refine .inl ⟨hp, ho.conflict, _, fun _ => hd', hi', ?_⟩
      intro hc
      simp only [hb hc]
      split_ifs with hk
      · -- without cash instruments a balance is not looked at
        have hm : a.cfg.fxEmpty = true := by simpa [isFxCashValue, hk] using hf
        rw [foldl_append]
        exact (collectBalance_of_fxEmpty hm _ e).symm
      · rfl
    · exact h.exposure
    · simp [hin]

end Answered

lemma Answered.completeIfReady {d : RiskRecord} {api : Api} {a : HeptaIBGatewayAdapter}
    (h : Answered d a.cfg api a.risk) : a.completeCoherentRiskRefreshIfReady.risk.Idle ∨
      Answered d a.cfg api a.completeCoherentRiskRefreshIfReady.risk := by
  unfold completeCoherentRiskRefreshIfReady
  split
  · exact .inr h
  rename_i hr
  simp only [Bool.or_eq_true, Bool.not_eq_true', not_or, Bool.not_eq_false, Bool.not_eq_true] at hr
  obtain ⟨⟨hpn, ha⟩, hps⟩ := hr
  cases hs : a.coherentRefreshSucceeded with
  | false => exact .inl ⟨rfl, rfl⟩
  | true =>
    have hp := hs
    simp only [coherentRefreshSucceeded, Bool.and_eq_true] at hp
    refine .inr ⟨h.deliveries, h.account, h.accountSet, ?_, ?_, by simp, ?_⟩
    · rcases h.positions with ho | hh
      · simp [ho.pending] at hps
      · exact .inr (hh.congr ⟨rfl, rfl, rfl, rfl, rfl⟩)
    · rcases h.cash with ho | hh
      · simp [ho.pending] at ha
      · exact .inr (hh.congr ⟨rfl, rfl, rfl, rfl, rfl⟩)
    · intro _
      refine ⟨rfl, hps, ?_, ha, ?_, ?_⟩
      · exact hp.1.1.1.1.2
      · exact hp.1.1.1.1.1.2
      · exact h.exposure hpn

end Hepta
