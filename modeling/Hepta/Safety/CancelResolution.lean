import Hepta.Execution.Run
import Hepta.Moves.Resolve

/-!
# Resolving cancels in any order

`ResolveUncertainCancelCommandsByCorrelation` checks each record in the loop that already settles
the records before it. The order of the request map does not matter exactly where no record
contradicts the evidence or none is settled by it, or the call ends before the loop.
-/

namespace Hepta

open Finmap RequestRecord

namespace System

def withoutOwner (record : RequestRecord) (owners : UMap Int ExecutionOrderOwner) :
    UMap Int ExecutionOrderOwner :=
  if (owners.lookup record.orderId).any (·.venueCorrelationId = record.venueCorrelationId) then
    owners.erase record.orderId
  else owners

/-- The effect of a decision on records and owners. -/
def carryOut (s : System) (key : String) : Option (RequestRecord × Bool × String) → System
  | none => s
  | some (record, accepted, code) =>
    { s with
      requests := s.requests.insert key (record.resolvedAs accepted code record.orderId)
      orderOwners := withoutOwner record s.orderOwners }

namespace CorrelationEvidence

variable (evidence : CorrelationEvidence)

/-- What the evidence says about the record of a cancel: nothing, a contradiction, or whether the
cancel was accepted and the code of the resolution. -/
def verdict (record : RequestRecord) : Option (Except String (Bool × String)) :=
  let correlation := record.venueCorrelationId
  let terminal := evidence.terminalOrderIds.find correlation
  let status := evidence.terminalStatuses.find correlation
  let executed : Bool := correlation ∈ evidence.executionCorrelations
  if ¬ record.cancelResolvable then none
  else if correlation = "" then
    some (.error "AUTHORITATIVE_CANCEL_TARGET_CORRELATION_REQUIRED")
  else match evidence.activeOrderIds.find correlation with
    | some active =>
      if active ≠ record.orderId then
        some (.error "AUTHORITATIVE_CANCEL_ACTIVE_CORRELATION_ID_MISMATCH")
      else none
    | none =>
      if record.orderId = 0 then none
      else if terminal.any fun orderId => orderId ≠ 0 ∧ orderId ≠ record.orderId then
        some (.error "AUTHORITATIVE_CANCEL_TERMINAL_CORRELATION_ID_MISMATCH")
      else if ¬ evidence.settles correlation then none
      else if terminal.isSome ∧ status = none then
        some (.error "AUTHORITATIVE_CANCEL_TERMINAL_CORRELATION_INCOMPLETE")
      else
        let terminalStatus := if terminal.isSome then status else none
        some (.ok (cancelResolutionAccepted terminalStatus executed,
          cancelResolutionCode terminalStatus executed))

def Contradicts (record : RequestRecord) : Prop :=
  ∃ reason, evidence.verdict record = some (.error reason)

def Settles (record : RequestRecord) : Prop :=
  ∃ resolution, evidence.verdict record = some (.ok resolution)

/-- The record under the key and how the evidence settles it. -/
def decision (s : System) (key : String) : Option (RequestRecord × Bool × String) :=
  (s.requests.lookup key).bind fun record =>
    match evidence.verdict record with
    | some (.ok resolution) => some (record, resolution)
    | _ => none

def settle (s : System) (key : String) : System :=
  s.carryOut key (evidence.decision s key)

end CorrelationEvidence

open CorrelationEvidence

variable {S : Service} {evidence : CorrelationEvidence} {s : System} {record : RequestRecord}
  {io io' : Io} {key key' : String} {keys order order' : List String} {n : Nat}

/-- No record satisfies the predicate. -/
def NoRecord (p : RequestRecord → Prop) (requests : UMap String RequestRecord) : Prop :=
  ∀ key record, requests.lookup key = some record → ¬ p record

/-- One record: nothing happens, the traversal stops, or the record is settled unless the append
fails. -/
lemma resolveCancelRecordByCorrelation_cases (S : Service) (evidence : CorrelationEvidence) (io : Io)
    (s : System) (key : String) (record : RequestRecord) (n : Nat) :
    let done := resolveCancelRecordByCorrelation S evidence io s key record n
    (evidence.verdict record = none ∧ done = .skip) ∨
    (∃ reason, evidence.verdict record = some (.error reason) ∧ done = .stop s reason) ∨
    ∃ accepted code, evidence.verdict record = some (.ok (accepted, code)) ∧
      ((∃ event, (s.journal.append S.config event (io.file n)).1 = false ∧
          ∃ s', done = .stop s' "OMS_CANCEL_RESOLUTION_WRITE_FAILED") ∨
        ∃ event journal, s.journal.append S.config event (io.file n) = (true, journal) ∧
          done = .settled (((s.setJournal journal).settleRecord key record accepted code
            record.orderId).eraseCorrelatedOwner record)) := by
  unfold resolveCancelRecordByCorrelation verdict
  dsimp only
  by_cases hr : ¬ record.cancelResolvable
  · rw [if_pos hr, if_pos hr]
    exact .inl ⟨rfl, rfl⟩
  rw [if_neg hr, if_neg hr]
  by_cases hm : record.venueCorrelationId = ""
  · rw [if_pos hm, if_pos hm]
    exact .inr (.inl ⟨_, rfl, rfl⟩)
  rw [if_neg hm, if_neg hm]
  cases evidence.activeOrderIds.find record.venueCorrelationId with
  | some =>
    dsimp only
    split_ifs
    · exact .inr (.inl ⟨_, rfl, rfl⟩)
    · exact .inl ⟨rfl, rfl⟩
  | none =>
    dsimp only
    split
    · exact .inl ⟨rfl, rfl⟩
    split
    · exact .inr (.inl ⟨_, rfl, rfl⟩)
    split
    · exact .inl ⟨rfl, rfl⟩
    split
    · exact .inr (.inl ⟨_, rfl, rfl⟩)
    refine .inr (.inr ⟨_, _, rfl, ?_⟩)
    unfold appendOrBlock
    rcases ha : s.journal.append S.config _ (io.file n) with ⟨_ | _, journal⟩
    · exact .inl ⟨_, congrArg Prod.fst ha, _, rfl⟩
    · exact .inr ⟨_, journal, ha, rfl⟩

/-! ### Settling one record -/

lemma eraseCorrelatedOwner_eq (s : System) : s.eraseCorrelatedOwner record =
    { s with orderOwners := withoutOwner record s.orderOwners } := by
  unfold eraseCorrelatedOwner withoutOwner
  cases s.orderOwners.lookup record.orderId with
  | none => rfl
  | some owner => by_cases h : owner.venueCorrelationId = record.venueCorrelationId <;>
      simp [h, eraseOwner]

lemma lookup_withoutOwner (record : RequestRecord) (ows : UMap Int ExecutionOrderOwner)
    (orderId : Int) : (withoutOwner record ows).lookup orderId =
      (ows.lookup orderId).filter fun owner => ¬ (record.orderId = orderId ∧
        owner.venueCorrelationId = record.venueCorrelationId) := by
  unfold withoutOwner
  by_cases hi : record.orderId = orderId
  · subst hi
    cases howner : ows.lookup record.orderId with
    | none => simp [howner]
    | some owner => by_cases h : owner.venueCorrelationId = record.venueCorrelationId <;>
        simp [h, howner, Option.filter]
  · have hk : (ows.erase record.orderId).lookup orderId = ows.lookup orderId :=
      lookup_erase_ne (Ne.symm hi)
    split_ifs <;> cases h : ows.lookup orderId <;> simp [h, hi, hk, Option.filter]

lemma withoutOwner_comm (record record' : RequestRecord) (ows : UMap Int ExecutionOrderOwner) :
    withoutOwner record (withoutOwner record' ows) =
      withoutOwner record' (withoutOwner record ows) := by
  apply ext_lookup
  intro orderId
  simp only [lookup_withoutOwner, Option.filter_filter, Bool.and_comm]

lemma carryOut_comm (he : key ≠ key') (d d' : Option (RequestRecord × Bool × String)) :
    (s.carryOut key d).carryOut key' d' = (s.carryOut key' d').carryOut key d := by
  cases d <;> cases d' <;>
    simp [carryOut, withoutOwner_comm, insert_insert_of_ne _ he]

lemma decision_carryOut (he : key ≠ key') (d : Option (RequestRecord × Bool × String)) :
    evidence.decision (s.carryOut key' d) key = evidence.decision s key := by
  cases d <;> simp [decision, carryOut, lookup_insert_of_ne _ he]

lemma settle_comm : evidence.settle (evidence.settle s key) key' =
    evidence.settle (evidence.settle s key') key := by
  by_cases he : key = key'
  · rw [he]
  · simp only [settle]
    rw [decision_carryOut (Ne.symm he), decision_carryOut he, carryOut_comm he]

lemma settle_setJournal {journal : OmsJournal} : evidence.settle (s.setJournal journal) key =
    (evidence.settle s key).setJournal journal := by
  unfold settle
  rw [show evidence.decision (s.setJournal journal) key = evidence.decision s key from rfl]
  cases evidence.decision s key <;> rfl

/-! ### The traversal -/

/-- The traversal of the given keys. -/
abbrev traverse (S : Service) (evidence : CorrelationEvidence) (io : Io) :
    List String → Nat → System → System × ResolveResult :=
  forEachRequest (resolveCancelRecordByCorrelation S evidence io)

lemma NoRecord.insert {rqs : UMap String RequestRecord} (h : NoRecord evidence.Contradicts rqs)
    (hr : evidence.verdict record = none ∨ evidence.Settles record) :
    NoRecord evidence.Contradicts (rqs.insert key record) := by
  rintro key' record' hl ⟨rs, hv⟩
  by_cases hk : key' = key
  · subst hk
    obtain rfl := Option.some.inj ((lookup_insert _).symm.trans hl)
    rcases hr with hnn | ⟨resolution, hs⟩ <;> simp_all
  · exact h key' record' ((lookup_insert_of_ne _ hk).symm.trans hl) ⟨rs, hv⟩

lemma verdict_resolvedAs (accepted : Bool) (code : String) :
    evidence.verdict (record.resolvedAs accepted code record.orderId) = none := by
  cases accepted <;> simp [verdict, cancelResolvable, resolvedAs]

/-- A traversal that meets no contradiction and whose appends succeed. -/
lemma traverse_settles (hf : NoRecord evidence.Contradicts s.requests)
    (ha : (traverse S evidence io keys n s).2.failure ≠
      some "OMS_CANCEL_RESOLUTION_WRITE_FAILED") :
    (traverse S evidence io keys n s).2.failure = none ∧ ∃ journal,
      (traverse S evidence io keys n s).1 = (keys.foldl evidence.settle s).setJournal journal := by
  induction keys generalizing n s with
  | nil => exact ⟨rfl, s.journal, rfl⟩
  | cons key keys ih =>
    unfold traverse forEachRequest at ha ⊢
    rw [List.foldl_cons]
    cases hl : s.requests.lookup key with
    | none =>
      have hs : evidence.settle s key = s := by
        simp [settle, decision, hl, carryOut]
      simp only [hl] at ha ⊢
      rw [hs]
      exact ih hf ha
    | some record =>
      simp only [hl] at ha ⊢
      rcases resolveCancelRecordByCorrelation_cases S evidence io s key record n with
        ⟨hv, hd⟩ | ⟨reason, hv, -⟩ |
        ⟨accepted, code, hv, ⟨-, -, s₁, hd⟩ | ⟨-, journal, -, hd⟩⟩
      · have hs : evidence.settle s key = s := by
          simp [settle, decision, hl, hv, carryOut]
        rw [hd] at ha ⊢
        rw [hs]
        exact ih hf ha
      · exact absurd ⟨reason, hv⟩ (hf key record hl)
      · rw [hd] at ha
        exact absurd rfl ha
      · have hs : evidence.settle s key = s.carryOut key (some (record, accepted, code)) := by
          simp [settle, decision, hl, hv]
        rw [hd, eraseCorrelatedOwner_eq] at ha ⊢
        obtain ⟨hnn, journal', heq⟩ := ih (NoRecord.insert hf (.inl (verdict_resolvedAs ..))) ha
        refine ⟨hnn, journal', heq.trans ?_⟩
        have hfl : keys.foldl evidence.settle ((evidence.settle s key).setJournal journal) =
            (keys.foldl evidence.settle (evidence.settle s key)).setJournal journal :=
          List.foldl_hom (setJournal · journal) fun _ _ => settle_setJournal
        rw [hs] at hfl ⊢
        exact (congrArg (setJournal · journal') hfl).trans rfl

/-- A traversal that settles nothing leaves everything as it was. -/
lemma traverse_idle (S : Service) (io : Io) (n : Nat) (keys : List String)
    (hs : s.journal.writePoisoned = true ∨ NoRecord evidence.Settles s.requests) :
    let r := traverse S evidence io keys n s
    r.2.failure = some "OMS_CANCEL_RESOLUTION_WRITE_FAILED" ∨ r.1 = s ∧ (r.2.failure = none ↔
      ∀ key ∈ keys, ∀ record, s.requests.lookup key = some record →
        evidence.verdict record = none) := by
  induction keys with
  | nil => exact .inr ⟨rfl, by simp [traverse, forEachRequest]⟩
  | cons first keys ih =>
    unfold traverse forEachRequest
    cases hf : s.requests.lookup first with
    | none => simpa [hf] using ih
    | some known =>
      dsimp only
      rcases resolveCancelRecordByCorrelation_cases S evidence io s first known n with
        ⟨hv, hd⟩ | ⟨reason, hv, hd⟩ | ⟨accepted, code, hv, ⟨-, -, s₁, hd⟩ | ⟨_, journal, ha, -⟩⟩
      · simpa [hd, hf, hv] using ih
      · exact .inr (by simp [hd, hf, hv])
      · exact .inl (by rw [hd])
      · rcases hs with hp | hn
        · simp [OmsJournal.append, hp] at ha
        · exact absurd ⟨_, hv⟩ (hn first known hf)

lemma finishResolve_view (outcome : System × ResolveResult) :
    (finishResolve outcome).2 = outcome.2 ∧
      (finishResolve outcome).1.requests = outcome.1.requests ∧
      (finishResolve outcome).1.orderOwners = outcome.1.orderOwners := by
  unfold finishResolve releaseRecoveryBlock
  split_ifs <;> exact ⟨rfl, rfl, rfl⟩

def Enumerates (s : System) (order : List String) : Prop :=
  order.Nodup ∧ ∀ key, key ∈ order ↔ key ∈ s.requests

lemma resolution_settles (hd : evidence.defect = none)
    (hf : NoRecord evidence.Contradicts s.requests)
    (ha : (s.resolveUncertainCancelCommandsByCorrelation S evidence order io).2.failure ≠
      some "OMS_CANCEL_RESOLUTION_WRITE_FAILED") :
    let r := s.resolveUncertainCancelCommandsByCorrelation S evidence order io
    r.2.failure = none ∧ r.1.requests = (order.foldl evidence.settle s).requests ∧
      r.1.orderOwners = (order.foldl evidence.settle s).orderOwners := by
  unfold resolveUncertainCancelCommandsByCorrelation at ha ⊢
  simp only [hd] at ha ⊢
  obtain ⟨hs, hr, ho⟩ := finishResolve_view (traverse S evidence io order 0 s)
  obtain ⟨hnn, _, heq⟩ := traverse_settles hf (hs ▸ ha)
  rw [heq] at hr ho
  exact ⟨hs ▸ hnn, hr, ho⟩

lemma resolution_idle (ho : s.Enumerates order) (hd : evidence.defect = none)
    (hs : s.journal.writePoisoned = true ∨ NoRecord evidence.Settles s.requests)
    (ha : (s.resolveUncertainCancelCommandsByCorrelation S evidence order io).2.failure ≠
      some "OMS_CANCEL_RESOLUTION_WRITE_FAILED") :
    let r := s.resolveUncertainCancelCommandsByCorrelation S evidence order io
    (r.2.failure = none ↔ ∀ key record, s.requests.lookup key = some record →
        evidence.verdict record = none) ∧
      r.1.requests = s.requests ∧ r.1.orderOwners = s.orderOwners ∧
      (r.2.failure ≠ none → r.1 = s) := by
  unfold resolveUncertainCancelCommandsByCorrelation at ha ⊢
  simp only [hd] at ha ⊢
  obtain ⟨hf, hr, hw⟩ := finishResolve_view (traverse S evidence io order 0 s)
  rcases traverse_idle S io 0 order hs with hb | ⟨heq, hn⟩
  · exact absurd (hf ▸ hb) ha
  have hm : ∀ key record, s.requests.lookup key = some record → key ∈ order :=
    fun key record hl => (ho.2 key).mpr (mem_iff.mpr ⟨record, hl⟩)
  refine ⟨?_, hr.trans (by rw [heq]), hw.trans (by rw [heq]), fun h => ?_⟩
  · rw [hf, hn]
    exact ⟨fun h key record hl => h key (hm key record hl) record hl, fun h key _ => h key⟩
  · rw [hf] at h
    rw [finishResolve, if_neg h, heq]

lemma verdict_ne_writeFailed :
    evidence.verdict record ≠ some (.error "OMS_CANCEL_RESOLUTION_WRITE_FAILED") := by
  unfold verdict
  dsimp only
  repeat' split
  all_goals simp

/-- With the settled record in front of the contradicting one, the call stops half way. -/
lemma resolution_stops_behind {record' : RequestRecord} (keys : List String) (S : Service)
    (hd : evidence.defect = none) (hp : s.journal.writePoisoned = false) (he : key ≠ key')
    (hl : s.requests.lookup key = some record) (hs : evidence.Settles record)
    (hl' : s.requests.lookup key' = some record') (hc : evidence.Contradicts record') :
    let r := s.resolveUncertainCancelCommandsByCorrelation S evidence (key :: key' :: keys) {}
    r.2.failure ≠ none ∧ r.2.failure ≠ some "OMS_CANCEL_RESOLUTION_WRITE_FAILED" ∧ r.1 ≠ s := by
  unfold resolveUncertainCancelCommandsByCorrelation
  simp only [hd, forEachRequest, hl]
  obtain ⟨resolution, hv⟩ := hs
  obtain ⟨reason', hv'⟩ := hc
  rcases resolveCancelRecordByCorrelation_cases S evidence {} s key record 0 with
    ⟨h, -⟩ | ⟨reason, h, -⟩ | ⟨accepted, code, -, ⟨event, hf, -⟩ | ⟨-, journal, -, hstep⟩⟩
  · simp [hv] at h
  · simp [hv] at h
  · rw [OmsJournal.append_clean S.config hp (by decide) event] at hf
    simp at hf
  set s₁ := ((s.setJournal journal).settleRecord key record accepted code
    record.orderId).eraseCorrelatedOwner record with hs₁
  rw [eraseCorrelatedOwner_eq] at hs₁
  have hl₁ : s₁.requests.lookup key' = some record' := by
    rw [hs₁]
    exact (lookup_insert_of_ne _ he.symm).trans hl'
  simp only [hstep, hl₁]
  rcases resolveCancelRecordByCorrelation_cases S evidence {} s₁ key' record' (0 + 1) with
    ⟨h, -⟩ | ⟨reason, h, hstop⟩ | ⟨_, _, h, -⟩
  · simp [hv'] at h
  · rw [hstop]
    refine ⟨by simp [finishResolve], fun hw => verdict_ne_writeFailed (h.trans ?_), fun heq => ?_⟩
    · rw [← Option.some.inj hw]
    have hk : s₁.requests.lookup key = some (record.resolvedAs accepted code record.orderId) := by
      rw [hs₁]
      exact lookup_insert _
    have heq' : s₁ = s := heq
    rw [heq', hl] at hk
    rw [Option.some.inj hk, verdict_resolvedAs] at hv
    simp at hv
  · simp [hv'] at h

lemma exists_enumeration (he : key ≠ key') (hk : key ∈ s.requests) (hk' : key' ∈ s.requests) :
    ∃ keys, s.Enumerates (key :: key' :: keys) := by
  refine ⟨((s.requests.keys.erase key).erase key').toList, ?_, fun k => ?_⟩
  · simp [he, Finset.nodup_toList]
  · simp only [List.mem_cons, Finset.mem_toList, Finset.mem_erase, mem_keys]
    grind

/-- Resolutions of one state that go through the request map in different orders, with all appends
succeeding, return the same flag and leave the same records and owners, and one that returns false
leaves everything as it was: exactly if no append can succeed, the evidence is refused as a whole,
no record contradicts it or none is settled by it. -/
theorem cancels_resolved_in_any_order (S : Service) (evidence : CorrelationEvidence) (s : System) :
    (∀ order order' io io', s.Enumerates order → s.Enumerates order' →
      let r := s.resolveUncertainCancelCommandsByCorrelation S evidence order io
      let r' := s.resolveUncertainCancelCommandsByCorrelation S evidence order' io'
      r.2.failure ≠ some "OMS_CANCEL_RESOLUTION_WRITE_FAILED" →
      r'.2.failure ≠ some "OMS_CANCEL_RESOLUTION_WRITE_FAILED" →
      (r.2.failure = none ↔ r'.2.failure = none) ∧ r.1.requests = r'.1.requests ∧
        r.1.orderOwners = r'.1.orderOwners ∧ (r.2.failure ≠ none → r.1 = s)) ↔
    s.journal.writePoisoned = true ∨ evidence.defect ≠ none ∨
      NoRecord evidence.Contradicts s.requests ∨ NoRecord evidence.Settles s.requests := by
  constructor
  · intro h
    by_contra hno
    simp only [not_or, not_not, NoRecord, not_forall, Bool.not_eq_true] at hno
    obtain ⟨hp, hd, ⟨key', record', hl', hc⟩, key, record, hl, hs⟩ := hno
    have he : key ≠ key' := by
      rintro rfl
      obtain rfl := Option.some.inj (hl.symm.trans hl')
      obtain ⟨_, hv⟩ := hs
      obtain ⟨_, hv'⟩ := hc
      simp [hv] at hv'
    obtain ⟨keys, ho⟩ := exists_enumeration he (mem_iff.mpr ⟨record, hl⟩)
      (mem_iff.mpr ⟨record', hl'⟩)
    obtain ⟨hf, hw, hne⟩ := resolution_stops_behind keys S hd hp he hl hs hl' hc
    exact hne ((h _ _ {} {} ho ho hw hw).2.2.2 hf)
  · intro hcondition order order' io io' horder horder' r r' happend happend'
    cases hd : evidence.defect with
    | some => simp [r, r', resolveUncertainCancelCommandsByCorrelation, hd]
    | none =>
      by_cases hf : NoRecord evidence.Contradicts s.requests
      · obtain ⟨hnone, hr, ho⟩ := resolution_settles hd hf happend
        obtain ⟨hnone', hr', ho'⟩ := resolution_settles hd hf happend'
        have hl : order.foldl evidence.settle s = order'.foldl evidence.settle s :=
          haveI : RightCommutative evidence.settle := ⟨fun _ _ _ => settle_comm⟩
          ((List.perm_ext_iff_of_nodup horder.1 horder'.1).mpr fun key =>
            (horder.2 key).trans (horder'.2 key).symm).foldl_eq s
        exact ⟨iff_of_true hnone hnone', by rw [hr, hr', hl], by rw [ho, ho', hl], absurd hnone⟩
      · have hs : s.journal.writePoisoned = true ∨ NoRecord evidence.Settles s.requests := by
          simpa [hd, hf] using hcondition
        obtain ⟨hi, hr, ho, hsame⟩ := resolution_idle horder hd hs happend
        obtain ⟨hi', hr', ho', -⟩ := resolution_idle horder' hd hs happend'
        exact ⟨hi.trans hi'.symm, hr.trans hr'.symm, ho.trans ho'.symm, hsame⟩

def sampleCancel (orderId : Int) (correlation : String) : RequestRecord where
  status := .uncertain
  operation := .cancel
  reasonCode := recoveryReconcileRequired
  orderId := orderId
  venueCorrelationId := correlation

/-- The broker has cancelled the first order and works the second. -/
def sampleCancelled : CorrelationEvidence where
  activeOrderIds := { entries := [("c8", 8)] }
  terminalOrderIds := { entries := [("c7", 7)] }
  terminalStatuses := { entries := [("c7", "Cancelled")] }

def sampleCancels (correlation : String) : System where
  requests := (Finmap.insert "a" (sampleCancel 7 "c7") ∅).insert "b" (sampleCancel 8 correlation)

lemma enumerates_sampleCancels (cor : String) :
    (sampleCancels cor).Enumerates ["a", "b"] ∧
      (sampleCancels cor).Enumerates ["b", "a"] := by
  refine ⟨⟨by decide, ?_⟩, ⟨by decide, ?_⟩⟩ <;> intro key <;>
    simp [sampleCancels, Finmap.mem_insert, notMem_empty, or_comm]

/-- The second cancel waits and the first is settled, in both orders. -/
theorem cancels_resolved_in_any_order_waiting :
    ((sampleCancels "c8").resolveUncertainCancelCommandsByCorrelation sampleService sampleCancelled
        ["a", "b"] {}).1.requests =
      ((sampleCancels "c8").resolveUncertainCancelCommandsByCorrelation sampleService
        sampleCancelled ["b", "a"] {}).1.requests := by
  refine ((cancels_resolved_in_any_order _ _ _).mpr (.inr (.inr (.inl ?_))) _ _ {} {}
    (enumerates_sampleCancels "c8").1 (enumerates_sampleCancels "c8").2 (by decide) (by decide)).2.1
  refine NoRecord.insert (NoRecord.insert (fun key record h => ?_) (.inr ⟨_, rfl⟩)) (.inl rfl)
  simp at h

/-- The second cancel has no correlation: both orders return false, but one of them has settled
and journaled the first cancel. -/
theorem cancels_resolved_in_one_order :
    let s := sampleCancels ""
    let r := s.resolveUncertainCancelCommandsByCorrelation sampleService sampleCancelled ["a", "b"] {}
    let r' := s.resolveUncertainCancelCommandsByCorrelation sampleService sampleCancelled ["b", "a"] {}
    r.2.failure = some "AUTHORITATIVE_CANCEL_TARGET_CORRELATION_REQUIRED" ∧
      r'.2.failure = r.2.failure ∧
      (r.1.requests.lookup "a").map RequestRecord.status = some .accepted ∧
      (r'.1.requests.lookup "a").map RequestRecord.status = some .uncertain ∧
      r.1.journal.written.length = 1 ∧ r'.1.journal.written = [] := by
  decide

end System

end Hepta
