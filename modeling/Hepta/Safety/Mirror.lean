import Hepta.Library.Fold
import Hepta.Moves.Step

/-!
# Recovery refines the live projection

As long as every append goes through, the memory of the service is what recovery would build from
the journal: a request record agrees with the fold of the records of its command, and the owners are
the fold of the records that name owners. The records of one command stand in the order in which
they were written, although others may be overtaken.
-/

namespace Hepta

open List Option OmsJournal RequestRecord Hepta.System Finmap Stage

namespace Coordinator

variable {key : String} {known : Option RequestRecord} {event : OmsJournalEvent}
  {events : List OmsJournalEvent}

/-! ### The records that leave a command alone -/

lemma recordStep_of_isFence (h : event.eventType.isFence = true) (known : Option RequestRecord) :
    recordStep key known event = known := by
  refine recordStep_of_not_concerns (fun hc => ?_) (fun ht => ?_)
  · exact absurd hc.1 (by simp [isCommand_of_eventType (isCommand_of_isFence h)])
  · simp [ht, EventType.isFence] at h

lemma ownerStep_of_isFence (h : event.eventType.isFence = true)
    (owners : UMap Int ExecutionOrderOwner) : ownerStep owners event = owners := by
  unfold ownerStep
  split_ifs with hm ht
  · rfl
  · simp [ht, EventType.isFence] at h
  · exact applyCommandOwner_of_not_isCommand (isCommand_of_isFence h) owners

lemma ownerStep_of_opensPlace (h : event.eventType.opensPlace = true)
    (owners : UMap Int ExecutionOrderOwner) : ownerStep owners event = owners := by
  unfold ownerStep applyCommandOwner
  cases ht : event.eventType <;> simp_all [EventType.opensPlace]

lemma Calm.recordStep (h : Calm known) (ho : event.concerns key → event.eventType.opensPlace = true)
    : Calm (recordStep key known event) := by
  by_cases hc : event.concerns key
  · have ht := ho hc
    have hk : isProjectionFailureReason (known.getD {}).reasonCode = false := by
      cases known with
      | none => rfl
      | some record => exact h record rfl
    intro record hr
    unfold Coordinator.recordStep at hr
    rw [if_neg hc.eventType_ne, if_pos hc] at hr
    obtain rfl := Option.some.inj hr
    split_ifs
    · exact hk
    · unfold absorb applyCommandState
      cases heq : event.eventType <;> simp_all [EventType.opensPlace, hydrate]
      rfl
  · rwa [recordStep_of_calm h hc]

end Coordinator

/-! ### The order of the records -/

namespace OmsJournal

open Coordinator

variable {cfg : OmsJournalConfig} {j j' : OmsJournal} {e : OmsJournalEvent} {key : String}

/-- Records that no sync waits for are about fences. -/
def Fenced (records : List OmsJournalEvent) : Prop :=
  ∀ e ∈ records, e.eventType.isCritical = false → e.eventType.isFence = true

/-- Everything that stands in the journal about the command opens a placement. -/
def Opening (key : String) (records : List OmsJournalEvent) : Prop :=
  ∀ e ∈ records, e.concerns key → e.eventType.opensPlace = true

/-- A record overtakes no record of its own command. -/
lemma Enters.concerns (h : Enters cfg e j j') (hfn : Fenced j.records)
    (hon : e.eventType.opensPlace = true → Opening key j.records) :
    ∃ front back, j.records = front ++ back ∧ j'.records = front ++ e :: back ∧
      (∀ b ∈ back, ¬ b.concerns key) ∧
      (e.eventType.opensPlace = false → ∀ b ∈ back, b.eventType.isFence = true) := by
  obtain ⟨front, back, hj, hj', ho, -⟩ := h.inserted
  have hm : ∀ b ∈ back, b ∈ j.records := fun b hb => by simp [hj, hb]
  have hf : e.eventType.opensPlace = false → ∀ b ∈ back, b.eventType.isFence = true := by
    intro he b hb
    refine hfn b (hm b hb) ?_
    cases hr : b.eventType.isCritical with
    | false => rfl
    | true => simp [ho.critical b hb hr] at he
  refine ⟨front, back, hj, hj', fun b hb hc => ?_, hf⟩
  cases he : e.eventType.opensPlace with
  | true =>
    have hp := hon he b (hm b hb) hc
    simp [ho.opening b hb] at hp
  | false =>
    have ht := isCommand_of_eventType (isCommand_of_isFence (hf he b hb))
    exact absurd hc.1 (by simp [ht])

lemma Opening.calm {records : List OmsJournalEvent} (h : Opening key records) :
    Calm (records.foldl (recordStep key) none) :=
  foldlRecOn records (recordStep key) (motive := Calm) (by simp [Calm])
    (fun _ hc event hm => hc.recordStep (h event hm))

lemma Enters.foldl_recordStep (h : Enters cfg e j j') (hfn : Fenced j.records)
    (ho : e.eventType.opensPlace = true → Opening key j.records) :
    j'.records.foldl (recordStep key) none =
      recordStep key (j.records.foldl (recordStep key) none) e := by
  obtain ⟨front, back, hj, hj', hother, hfc⟩ := h.concerns hfn ho
  rw [hj, hj']
  cases he : e.eventType.opensPlace with
  | false =>
    exact foldl_append_cons_of_fixed e none fun b hb known =>
      recordStep_of_isFence (hfc he b hb) known
  | true =>
    -- what is overtaken resolves at most projections, and none has failed here
    have hr : Opening key front := fun b hb => ho he b (by simp [hj, hb])
    have hf : ∀ known : Option RequestRecord, Calm known →
        back.foldl (recordStep key) known = known := fun known hc =>
      foldl_of_fixed fun b hb => recordStep_of_calm hc (hother b hb)
    rw [foldl_append, foldl_cons, foldl_append, hf _ hr.calm]
    exact hf _ (hr.calm.recordStep fun _ => he)

lemma Enters.foldl_ownerStep (h : Enters cfg e j j') (hf : Fenced j.records) :
    j'.records.foldl ownerStep ∅ = ownerStep (j.records.foldl ownerStep ∅) e := by
  obtain ⟨_, _, hj, hj', ho, -⟩ := h.inserted
  rw [hj, hj']
  cases he : e.eventType.opensPlace with
  | false =>
    refine foldl_append_cons_of_fixed e ∅ fun b hb => ownerStep_of_isFence (hf b ?_ ?_)
    · simp [hj, hb]
    · cases hc : b.eventType.isCritical with
      | false => rfl
      | true => simp [ho.critical b hb hc] at he
  | true =>
    rw [ownerStep_of_opensPlace he]
    exact foldl_append_cons_fixed ∅ (ownerStep_of_opensPlace he)

end OmsJournal

/-! ### The stages that open a placement -/

namespace Stage

variable {stage after : Stage} {e : OmsJournalEvent}

/-- The stages in which the records that open a placement are written. -/
def opens : Stage → Bool
  | .fresh | .intended .place => true
  | _ => false

lemma opens_of_next (h : stage.next e = some after) (he : e.eventType.opensPlace = true) :
    stage.opens = true := by
  have ht : e.eventType = .orderIntent ∨ e.eventType = .placeSendAttempt := by
    revert he
    cases e.eventType <;> simp [EventType.opensPlace]
  cases stage with
  | fresh => rfl
  | intended operation | attempted operation | unresolved operation =>
    cases operation <;> rcases ht with ht | ht <;>
      simp [next, outcome, resolvedBy, ht, opens] at h ⊢
  | reserved | sent _ | projectionFailed _ | closed _ =>
    rcases ht with ht | ht <;> simp [next, ht] at h

lemma opensPlace_of_next (h : stage.next e = some after) (ha : after.opens = true) :
    stage.opens = true ∧ e.eventType.opensPlace = true := by
  cases stage with
  | fresh =>
    refine ⟨rfl, ?_⟩
    cases ht : e.eventType with
    | orderIntent => rfl
    | _ =>
      simp only [next, ht, ite_none_right_eq_some, Option.some.injEq, reduceCtorEq] at h
      try grind [opens]
  | intended operation | attempted operation | unresolved operation =>
    cases operation <;> cases ht : e.eventType <;>
      simp [next, outcome, resolvedBy, ht] at h <;> grind [opens]
  | reserved =>
    cases ht : e.eventType <;> simp [next, ht] at h <;> subst h <;> simp [opens] at ha
  | sent =>
    simp only [next, ite_none_right_eq_some, Option.some.injEq] at h
    obtain ⟨-, rfl⟩ := h
    simp [opens] at ha
  | projectionFailed _ | closed _ => simp [next] at h

lemma isCritical_of_next (h : stage.next e = some after) : e.eventType.isCritical = true := by
  cases ht : e.eventType with
  | sessionOwnerRecoveryOnly | paperTerminalFence | other name =>
    cases stage with
    | intended operation | attempted operation | unresolved operation =>
      cases operation <;> simp [next, outcome, resolvedBy, ht] at h
    | fresh | reserved | sent _ | projectionFailed _ | closed _ => simp [next, ht] at h
  | _ => rfl

end Stage

namespace OmsJournal

open Coordinator

variable {cfg : OmsJournalConfig} {j j' : OmsJournal} {events : List OmsJournalEvent}
  {key : String} {stage after : Stage}

/-- The records of a stretch of work act on the folds of the records before them. -/
lemma Journaled.foldl (h : Journaled cfg j events j') (ha : stage.advance events = some after)
    (hcn : ∀ e ∈ events, e.concerns key) (hf : Fenced j.records)
    (ho : stage.opens = true → Opening key j.records) :
    Fenced j'.records ∧
      j'.records.foldl (recordStep key) none =
        events.foldl (recordStep key) (j.records.foldl (recordStep key) none) ∧
      j'.records.foldl ownerStep ∅ = events.foldl ownerStep (j.records.foldl ownerStep ∅) := by
  induction h generalizing stage with
  | quiet h => exact ⟨h.records ▸ hf, by rw [h.records]; rfl, by rw [h.records]; rfl⟩
  | @enter j j₁ j' e events h rest ih =>
    simp only [advance, foldlM_cons, bind_eq_bind, bind_eq_some_iff] at ha
    obtain ⟨_, hnext, ha⟩ := ha
    have hp : e.eventType.opensPlace = true → Opening key j.records :=
      fun he => ho (Stage.opens_of_next hnext he)
    obtain ⟨hf', hr, hw⟩ := ih ha (fun b hb => hcn b (by simp [hb]))
      (by
        intro b hb hc
        rcases h.mem_records.mp hb with rfl | hb
        · simp [Stage.isCritical_of_next hnext] at hc
        · exact hf b hb hc)
      (by
        intro haf b hb hb'
        obtain ⟨hs, he⟩ := Stage.opensPlace_of_next hnext haf
        rcases h.mem_records.mp hb with rfl | hb
        · exact he
        · exact ho hs b hb hb')
    refine ⟨hf', ?_, ?_⟩
    · rw [hr, h.foldl_recordStep hf hp, foldl_cons]
    · rw [hw, h.foldl_ownerStep hf, foldl_cons]

end OmsJournal

/-- The records of a stretch of work are folded one after another. -/
lemma Coordinator.foldl_recordStep {key : String} {events : List OmsJournalEvent} {hash : String}
    (hc : ∀ e ∈ events, e.concerns key) (hh : ∀ e ∈ events, e.requestHash = hash) :
    ∀ {known : Option RequestRecord} {record : RequestRecord}, known.getD {} = record →
      (record.requestHash = hash ∨ record.requestHash = "") → (known = some record ∨ events ≠ []) →
      events.foldl (recordStep key) known = some (events.foldl absorb record) := by
  induction events with
  | nil =>
    intro known record _ _ hs
    simpa using hs
  | cons e events ih =>
    intro known record hk hr _
    have he := hh e (by simp)
    rw [foldl_cons, foldl_cons,
      recordStep_of_concerns (hc e (by simp)) record hk (he.symm ▸ hr)]
    refine ih (fun b hb => hc b (by simp [hb])) (fun b hb => hh b (by simp [hb])) rfl ?_
      (.inl rfl)
    rcases hr with hr | hr <;> simp [hr, he]

/-! ### The invariant -/

variable {S : Service} {A : Allowance} {s s' : System}

open Coordinator

/-- The memory is what recovery would build from the journal. -/
structure Mirrors (A : Allowance) (s : System) : Prop where
  commands : ∀ key, Option.Rel Agrees (s.requests.lookup key)
    (s.journal.records.foldl (recordStep key) none)
  hashed : ∀ e ∈ s.journal.records, e.isCommand = true → ∃ record,
    s.requests.lookup e.requestKey = some record ∧ record.requestHash = e.requestHash
  owners : A.reuse ∨ A.forget ∨ s.orderOwners = s.journal.records.foldl ownerStep ∅
  fenced : Fenced s.journal.records

variable {key : String} {base record : RequestRecord} {start : RequestRecord → Prop} {stage : Stage}
  {events : List OmsJournalEvent}

/-- The hash that the record in memory has. -/
def System.hashOf (s : System) (key : String) : String :=
  ((s.requests.lookup key).getD {}).requestHash

lemma Mirrors.uniform (h : Mirrors A s) : Uniform s.hashOf s.journal.records := by
  intro e he hc
  obtain ⟨_, hk, hh⟩ := h.hashed e he hc
  simp [System.hashOf, hk, hh]

lemma Mirrors.opening_of_fresh (h : Mirrors A s) (hf : s.requests.lookup key = none) :
    Opening key s.journal.records := by
  rintro e he ⟨hc, rfl⟩
  obtain ⟨_, hk, -⟩ := h.hashed e he hc
  simp [hf] at hk

lemma Mirrors.folded_of_fresh (h : Mirrors A s) (hfr : s.requests.lookup key = none) :
    s.journal.records.foldl (recordStep key) none = none := by
  have hr := h.commands key
  rw [hfr] at hr
  cases hf : s.journal.records.foldl (recordStep key) none with
  | none => rfl
  | some => rw [hf] at hr; cases hr

lemma Mirrors.folded (h : Mirrors A s) (hk : s.requests.lookup key = some record) :
    ∃ folded, s.journal.records.foldl (recordStep key) none = some folded ∧
      Agrees record folded := by
  have hr := h.commands key
  rw [hk] at hr
  cases hf : s.journal.records.foldl (recordStep key) none with
  | none => rw [hf] at hr; cases hr
  | some folded =>
    rw [hf] at hr
    cases hr with
    | some ha => exact ⟨folded, rfl, ha⟩

lemma Mirrors.requestHash (h : Mirrors A s)
    (hb : ∀ live, s.requests.lookup key = some live → live.requestHash = base.requestHash) :
    ((s.journal.records.foldl (recordStep key) none).getD {}).requestHash = base.requestHash ∨
      ((s.journal.records.foldl (recordStep key) none).getD {}).requestHash = "" := by
  cases hk : s.requests.lookup key with
  | none => exact .inr (by rw [h.folded_of_fresh hk]; rfl)
  | some live =>
    obtain ⟨folded, hf, ha⟩ := h.folded hk
    left
    rw [hf, getD_some, ← ha.requestHash, hb live hk]

lemma Writes.mirrors (hw : Writes S A key base start stage s events record s') (hl : ¬ A.fault)
    (h : Mirrors A s) (hy : base.context.requestKey = key) (hi : base.context.identified = true)
    (hp : stage.opens = true → Opening key s.journal.records)
    (hs : start ((s.journal.records.foldl (recordStep key) none).getD {}))
    (hb : ∀ live, s.requests.lookup key = some live → live.requestHash = base.requestHash) :
    Mirrors A s' := by
  obtain ⟨_, hd, -⟩ := hw.advances
  have hcn : ∀ e ∈ events, e.concerns key := fun e he =>
    ⟨(hw.belongs e he).isCommand, (hw.belongs e he).requestKey.trans hy⟩
  have hh : ∀ e ∈ events, e.requestHash = base.requestHash := fun e he =>
    congrArg CommandIdentity.requestHash (hw.belongs e he).identity
  have hr : record.requestHash = base.requestHash :=
    congrArg CommandIdentity.requestHash hw.identity
  have ha := (hw.agrees.resolve_left hl).2 _ hs
  obtain ⟨hfn, hfo, ho⟩ := hw.journaled.foldl hd hcn h.fenced hp
  refine ⟨fun key' => ?_, fun e he hm => ?_, ?_, hfn⟩
  · rw [hw.requests]
    by_cases hk : key' = key
    · subst hk
      rw [lookup_insert, hfo, foldl_recordStep hcn hh rfl (h.requestHash hb) ?_]
      · exact .some ha
      -- a command without a record has written one now
      cases hkn : s.journal.records.foldl (recordStep key') none with
      | some => exact .inl rfl
      | none =>
        right
        rintro rfl
        have hg := congrArg CommandIdentity.agentId (ha.identity.symm.trans hw.identity)
        rw [hkn] at hg
        exact agentId_ne_empty hi hg.symm
    · rw [lookup_insert_of_ne _ hk, hw.journaled.foldl_fixed fun e he known => ?_]
      · exact h.commands key'
      · exact recordStep_of_not_concerns (fun hc => hk (hc.2.symm.trans (hcn e he).2))
          (hcn e he).eventType_ne
  · rw [hw.requests]
    rcases hw.journaled.mem_records.mp he with he | he
    · rw [(hcn e he).2]
      exact ⟨record, lookup_insert _, hr.trans (hh e he).symm⟩
    obtain ⟨live, hlive, heq⟩ := h.hashed e he hm
    by_cases hk : e.requestKey = key
    · rw [hk] at hlive ⊢
      exact ⟨record, lookup_insert _, by rw [hr, ← hb live hlive, heq]⟩
    · exact ⟨live, by rw [lookup_insert_of_ne _ hk, hlive], heq⟩
  · rcases hw.owners with hf | hre | ho'
    · exact absurd hf hl
    · exact .inl hre
    · refine h.owners.imp_right fun h => h.imp_right fun h => ?_
      rw [ho', ho, h]
      exact foldl_ext _ _ _ fun ows e he =>
        (ownerStep_of_isCommand (hw.belongs e he).isCommand ows).symm

lemma Mirrors.of_enters {e : OmsJournalEvent} {j' : OmsJournal} (h : Mirrors A s)
    (he : Enters S.config e s.journal j') (hc : e.eventType.isCommand = false)
    (hr : e.eventType.isCritical = true) :
    (∀ key, j'.records.foldl (recordStep key) none =
        recordStep key (s.journal.records.foldl (recordStep key) none) e) ∧
      j'.records.foldl ownerStep ∅ = ownerStep (s.journal.records.foldl ownerStep ∅) e ∧
      (∀ b ∈ j'.records, b.isCommand = true → b ∈ s.journal.records) ∧ Fenced j'.records := by
  have ho : e.eventType.opensPlace = false := by
    revert hc
    cases e.eventType <;> simp [EventType.isCommand, EventType.opensPlace]
  refine ⟨fun key => he.foldl_recordStep h.fenced (by simp [ho]), he.foldl_ownerStep h.fenced,
    fun b hb hb' => ?_, fun b hb hb' => ?_⟩
  · rcases he.mem_records.mp hb with rfl | hb
    · simp [isCommand_of_eventType hc] at hb'
    · exact hb
  · rcases he.mem_records.mp hb with rfl | hb
    · simp [hr] at hb'
    · exact h.fenced b hb hb'

lemma RequestRecord.Agrees.resolveProjection {live folded : RequestRecord} (h : Agrees live folded) :
    Agrees (resolveProjection live) (resolveProjection folded) := by
  unfold Coordinator.resolveProjection
  rcases h.reasonCode with heq | ⟨hl, hf⟩
  · rw [heq]
    split_ifs
    · exact ⟨h.identity, h.venueCorrelationId, h.operation, rfl, h.orderId, .inl rfl⟩
    · exact h
  · rw [hl, hf, if_neg (by decide), if_neg (by decide)]
    exact h

lemma Mirrors.of_recovered (h : Mirrors A s) (hs : s'.journal.records ⊆ s.journal.records)
    (hm : s'.toCoordinator = Coordinator.recovered s'.journal.records) : Mirrors A s' := by
  have hr : ∀ key, s'.requests.lookup key =
      s'.journal.records.foldl (recordStep key) none := by
    intro key
    rw [hm, requests_recovered, lookup_replay]
  have hu := h.uniform.subset hs
  refine ⟨fun key => ?_, fun e he hc => ?_, ?_, fun e he => h.fenced e (hs he)⟩
  · rw [hr]
    cases s'.journal.records.foldl (recordStep key) none with
    | none => exact .none
    | some folded => exact .some (Agrees.refl folded)
  · rw [hr]
    rcases requestHash_foldl hu e.requestKey with ⟨hnn, -⟩ | ⟨record, heq, hh⟩
    · exact absurd ⟨hc, rfl⟩ (hnn e he)
    · exact ⟨record, heq, hh.trans (hu e he hc).symm⟩
  · refine .inr (.inr ?_)
    rw [hm, orderOwners_recovered, orderOwners_replay hu]

lemma Move.mirrors (hf : ¬ A.fault) (hc : Coherent S s) (h : Mirrors A s)
    (hv : Move S A s s') : Mirrors A s' := by
  cases hv with
  | @opened _ base fresh identified closes =>
    obtain ⟨events, record, hw, -⟩ := closes
    exact hw.mirrors hf h rfl identified (fun _ => h.opening_of_fresh fresh)
      (by rw [h.folded_of_fresh fresh]; rfl) (by simp [fresh])
  | @dispatched _ dispatch events fresh wellFormed writes attempted durable flight block admitted =>
    exact writes.mirrors hf h (by rw [dispatch.pending_context, wellFormed.requestKey])
      (by rw [dispatch.pending_context, wellFormed.identified])
      (fun _ => h.opening_of_fresh fresh) (by rw [h.folded_of_fresh fresh]; rfl) (by simp [fresh])
  | @returned _ dispatch waiting closes =>
    obtain ⟨_, record, hw, -⟩ := closes
    obtain ⟨hkn, wellFormed⟩ := hc.pending dispatch waiting
    obtain ⟨folded, hfl, ha⟩ := h.folded hkn
    have h' : Mirrors A (s.callReturned dispatch) := ⟨h.commands, h.hashed, h.owners, h.fenced⟩
    refine hw.mirrors hf h' (by rw [dispatch.pending_context, wellFormed.requestKey])
      (by rw [dispatch.pending_context, wellFormed.identified]) (by simp [opens]) ?_ ?_
    · show Stems dispatch.pending ((s.journal.records.foldl _ none).getD {})
      rw [hfl]
      exact ha.stems
    · intro live hl
      rw [show (s.callReturned dispatch).requests = s.requests from rfl, hkn, Option.some.injEq] at hl
      rw [hl]
  | @resolved _ key record known live closes =>
    obtain ⟨_, _, hw, -⟩ :=
      closes (.unresolved record.operation) (by simp [resolvable])
    obtain ⟨hk, hi⟩ := hc.keyed key record known
    obtain ⟨folded, hfl, ha⟩ := h.folded known
    refine hw.mirrors hf h hk hi (by simp [opens]) ?_ ?_
    · rw [hfl]
      exact ha.stems
    · intro live hl
      rw [known, Option.some.injEq] at hl
      rw [hl]
  | refused refused => exact absurd refused.fault hf
  | fenced al journaled ord sound fences rqs ows =>
    refine ⟨fun key => ?_, fun e he hcm => ?_, ?_, fun e he hcr => ?_⟩
    · rw [rqs, journaled.foldl_fixed fun e he => recordStep_of_isFence (fences e he).isFence]
      exact h.commands key
    · rcases journaled.mem_records.mp he with he | he
      · simp [isCommand_of_eventType (isCommand_of_isFence (fences e he).isFence)] at hcm
      · rw [rqs]
        exact h.hashed e he hcm
    · rw [ows, journaled.foldl_fixed fun e he => ownerStep_of_isFence (fences e he).isFence]
      exact h.owners
    · rcases journaled.mem_records.mp he with he | he
      · exact (fences e he).isFence
      · exact h.fenced e he hcr
  | @ended e j' orderId appended eventType order named =>
    obtain ⟨hr, ho, hm, hfn⟩ :=
      h.of_enters appended.enters (by rw [eventType]; rfl) (by rw [eventType]; rfl)
    refine ⟨fun key => ?_, fun b hb hb' => h.hashed b (hm b hb hb') hb', ?_, hfn⟩
    · show Option.Rel Agrees (s.requests.lookup key) (j'.records.foldl (recordStep key) none)
      rw [hr, recordStep_of_not_concerns ?_ (by simp [eventType])]
      · exact h.commands key
      · exact fun hcn => absurd hcn.1
          (by simp [isCommand_of_eventType (e := e) (by rw [eventType]; rfl)])
    · refine h.owners.imp_right fun h => h.imp_right fun h => ?_
      show s.orderOwners.erase orderId = j'.records.foldl ownerStep ∅
      rw [ho, ← h, ownerStep, if_neg (not_or.mpr named), if_pos eventType, order]
  | forgot al => exact ⟨h.commands, h.hashed, .inr (.inl al), h.fenced⟩
  | @lifted e j' al appended eventType blocked reason =>
    obtain ⟨hr, ho, hm, hfn⟩ :=
      h.of_enters appended.enters (by rw [eventType]; rfl) (by rw [eventType]; rfl)
    refine ⟨fun key => ?_, fun b hb hb' => ?_, ?_, hfn⟩
    · show Option.Rel Agrees ((s.requests.mapValues resolveProjection).lookup key)
        (j'.records.foldl (recordStep key) none)
      rw [hr, UMap.lookup_mapValues, recordStep, if_pos eventType]
      have hrl := h.commands key
      generalize s.requests.lookup key = live at hrl ⊢
      generalize s.journal.records.foldl (recordStep key) none = folded at hrl ⊢
      cases hrl with
      | none => exact .none
      | some ha => exact .some ha.resolveProjection
    · obtain ⟨record, hkn, hh⟩ := h.hashed b (hm b hb hb') hb'
      refine ⟨resolveProjection record, ?_, by simpa using hh⟩
      exact (UMap.lookup_mapValues _ _ _).trans (by rw [hkn]; rfl)
    · refine h.owners.imp_right fun h => h.imp_right fun h => ?_
      show s.orderOwners = j'.records.foldl ownerStep ∅
      rw [ho, ← h, ownerStep]
      split_ifs with hnm ht
      · rfl
      · simp [eventType] at ht
      · exact (applyCommandOwner_of_not_isCommand (by rw [eventType]; rfl) _).symm
  | preflight | reconnecting | reconnected | released =>
    exact ⟨h.commands, h.hashed, h.owners, h.fenced⟩
  | @flushed j' quiet ord sound =>
    have hr : (s.setJournal j').journal.records = s.journal.records := quiet.records
    exact ⟨hr ▸ h.commands, hr ▸ h.hashed, hr ▸ h.owners, hr ▸ h.fenced⟩
  | recovered source synced ord sound mem =>
    refine h.of_recovered ?_ mem
    rcases source with ⟨hr, -⟩ | hr <;> rw [hr]
    · exact List.Subset.refl _
    · exact synced_subset_records _
  | unrecovered fault => exact absurd fault hf

/-! ### Runs -/

/-- The parts of a request record on which a retry and a resolution depend. -/
def RequestRecord.sameCommand (live rebuilt : RequestRecord) : Prop :=
  live.requestHash = rebuilt.requestHash ∧ live.venueCorrelationId = rebuilt.venueCorrelationId ∧
    live.operation = rebuilt.operation ∧ live.orderId = rebuilt.orderId ∧
    live.status = rebuilt.status

lemma RequestRecord.Agrees.sameCommand {live folded : RequestRecord} (h : Agrees live folded) :
    live.sameCommand folded :=
  ⟨h.requestHash, h.venueCorrelationId, h.operation, h.orderId, h.status⟩

lemma recoverFromJournal_stop (hs : s.journal.writePoisoned = false) :
    (s.stop.recoverFromJournal {}).1.toCoordinator = Coordinator.recovered s.journal.records := by
  have hc : s.stop.journal.records = s.journal.records := (flushQueued_quiet s.journal {}).records
  have hr := replay_clean (j := s.stop.journal) (@flushQueued_clean s.journal {} hs rfl).2
  rcases heq : s.stop.journal.replay {} with ⟨events, _⟩
  rw [heq, hc] at hr
  obtain rfl : events = some s.journal.records := hr
  simp only [recoverFromJournal, heq]
  rfl

/-- Runs in which every append goes through. -/
def faultless : Allowance := { unrestricted with fault := False }

lemma mirrors_start : Mirrors A {} := by
  refine ⟨fun key => ?_, ?_, .inr (.inr ?_), ?_⟩
  · exact .none
  · simp [OmsJournal.records, OmsJournal.written, OmsJournal.pending]
  · rfl
  · simp [Fenced, OmsJournal.records, OmsJournal.written, OmsJournal.pending]

/-- However the service was used, as long as every append went through the process that recovers
after it has stopped knows the same commands: hash, correlation, operation, order and status are
those of the live record. Commands at the venue are uncertain on both sides. -/
theorem recovery_rebuilds_commands (S : Service) (actions : List Action)
    (hclean : ∀ action ∈ actions, action.clean) (key : String) :
    Option.Rel RequestRecord.sameCommand ((run S actions).requests.lookup key)
      (((run S actions).stop.recoverFromJournal {}).1.requests.lookup key) := by
  have hp : meets S faultless.Permits {} actions :=
    (meets_trivial {} actions).imp fun _ action hm _ => ⟨.inr (hclean action hm),
      .inl trivial, .inl trivial, .inl trivial, .inl trivial, .inl trivial,
      fun _ _ => trivial, fun _ _ => trivial⟩
  obtain ⟨-, hi, hmr⟩ := run_invariant (mirrors_start (A := faultless))
    (fun hc _ h hv => hv.mirrors (fun hf => hf) hc h) hp
  rw [recoverFromJournal_stop (hi.resolve_left fun hf => hf), requests_recovered, lookup_replay]
  have hr := hmr.commands key
  generalize (run S actions).requests.lookup key = live at hr ⊢
  generalize (run S actions).journal.records.foldl (recordStep key) none = folded at hr ⊢
  cases hr with
  | none => exact .none
  | some ha => exact .some ha.sameCommand

/-- A placement is lost at the venue and the one after it is not. -/
def lostPlacement : List Action :=
  [.placeOrder (samplePlacement "lost") none {} {}, samplePlaced "lost" (.threw "timeout"),
    .resolveUncertainPlaceCommands {} true true [(sampleContext "lost").requestKey] {},
    .placeOrder (samplePlacement "next") none {} {},
    samplePlaced "next" (.returned { disposition := .submitted, orderId := 7 })]

lemma lostPlacement_clean : ∀ action ∈ lostPlacement, action.clean := by
  simp [lostPlacement, samplePlaced, Action.clean, Io.clean_default]

set_option maxRecDepth 10000 in
theorem recovery_rebuilds_lost_placement : (run sampleService lostPlacement).requests.keys =
        {(sampleContext "lost").requestKey, (sampleContext "next").requestKey} ∧
      ∀ key, Option.Rel RequestRecord.sameCommand
        ((run sampleService lostPlacement).requests.lookup key)
        (((run sampleService lostPlacement).stop.recoverFromJournal {}).1.requests.lookup key) :=
  ⟨by decide, recovery_rebuilds_commands sampleService lostPlacement lostPlacement_clean⟩

/-! ### Owners -/

/-- Cancels are resolved by correlation only where their orders have not gone to another one. -/
def System.correlated (s : System) : Action → Prop
  | .resolveUncertainCancelCommandsByCorrelation evidence _ _ => s.correlationsHold evidence
  | _ => True

instance (s : System) (action : Action) : Decidable (s.correlated action) := by
  unfold System.correlated; split <;> infer_instance

/-- Runs in which every append goes through and every change of an owner has its record. -/
def attributed : Allowance := { unrestricted with fault := False, reuse := False, forget := False }

/-- As long as every append went through, every owner went with a record, and no cancel was resolved
by correlation after its order id had gone to another order, the process that recovers knows the
owners of the one that stopped. -/
theorem recovery_rebuilds_owners (S : Service) (actions : List Action)
    (hclean : ∀ action ∈ actions, action.clean)
    (hdurable : ∀ action ∈ actions, ∀ orderId, action ≠ .recordOrderTerminal orderId)
    (hcorrelated : meets S correlated {} actions) :
    ((run S actions).stop.recoverFromJournal {}).1.orderOwners = (run S actions).orderOwners := by
  have hp : meets S attributed.Permits {} actions := by
    refine hcorrelated.imp fun s action hm hcr => ⟨.inr (hclean action hm), .inr ?_, .inr (hdurable
      action hm), .inl trivial, .inl trivial, .inl trivial, fun _ _ => trivial, fun _ _ => trivial⟩
    rintro ev order io rfl
    exact hcr
  obtain ⟨-, hi, hr⟩ := run_invariant (mirrors_start (A := attributed))
    (fun hc _ h hv => hv.mirrors (fun hf => hf) hc h) hp
  rw [recoverFromJournal_stop (hi.resolve_left fun hf => hf), orderOwners_recovered,
    orderOwners_replay hr.uniform]
  rcases hr.owners with hf | hf | ho
  · exact hf.elim
  · exact hf.elim
  · exact ho.symm

/-- A cancel is resolved by correlation after the venue has given its order id to a second order,
if `reused` says so. -/
def reusedOrderId (reused : Bool) : List Action :=
  let cancel : CancelOrderCommand := { context := sampleContext "cancel", orderId := 7 }
  let submitted (orderId : Int) : VenueReply VenuePlaceResult :=
    .returned { disposition := .submitted, orderId := orderId }
  let working : List Action :=
    [.placeOrder (samplePlacement "first") none {} {}, samplePlaced "first" (submitted 7)]
  let correlation := (placeDispatch sampleService (samplePlacement "first") 0).venueCorrelationId
  working ++
    [.cancelOrder cancel {},
      .cancelReturned cancel ((run sampleService working).cancelDispatch sampleService cancel)
        (.returned { disposition := .deferred }) (.returned true "") {},
      .placeOrder (samplePlacement "second") none {} {},
      samplePlaced "second" (submitted (if reused then 7 else 8)),
      .resolveUncertainCancelCommandsByCorrelation
        { terminalOrderIds := ⟨[(correlation, 7)], pairwise_singleton _ _⟩
          terminalStatuses := ⟨[(correlation, "Cancelled")], pairwise_singleton _ _⟩ }
        (["first", "cancel", "second"].map fun id => (sampleContext id).requestKey) {}]

lemma reusedOrderId_clean (reused : Bool) : ∀ action ∈ reusedOrderId reused, action.clean := by
  simp [reusedOrderId, samplePlaced, Action.clean, Io.clean_default]

set_option maxRecDepth 10000 in
theorem recovery_rebuilds_second_order :
    ((run sampleService (reusedOrderId false)).orderOwners.keys = {8}) ∧
      ((run sampleService (reusedOrderId false)).stop.recoverFromJournal {}).1.orderOwners =
        (run sampleService (reusedOrderId false)).orderOwners :=
  ⟨by decide, recovery_rebuilds_owners sampleService (reusedOrderId false)
    (reusedOrderId_clean false) (by simp [reusedOrderId, samplePlaced]) (by decide)⟩

set_option maxRecDepth 10000 in
theorem recovery_loses_reused_order :
    (∀ action ∈ reusedOrderId true, action.clean) ∧
      ((run sampleService (reusedOrderId true)).orderOwners.lookup 7).isSome = true ∧
      ((run sampleService (reusedOrderId true)).stop.recoverFromJournal {}).1.orderOwners.lookup 7 =
        none :=
  ⟨reusedOrderId_clean true, by decide, by decide +kernel⟩

end Hepta
