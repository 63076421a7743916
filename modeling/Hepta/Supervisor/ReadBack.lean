import Hepta.Supervisor.Readable
import Hepta.Supervisor.Retirement

/-!
# The store reads back what it wrote

In every run whose replacements keep the paper owners of an open finalization, the file that a call
writes is read back to the records and the acknowledgements in memory.
-/

namespace Hepta

open List Bytes LeaseCodec

namespace SessionSupervisorLeaseStore

variable {sha256 : Bytes → Bytes} {s next s' : SessionSupervisorLeaseStore} {call : Call}
  {r r' found : SessionSupervisorLeaseRecord} {a : SessionSupervisorPaperFinalizationAck}
  {l : List SessionSupervisorLeaseRecord} {q : SealRequest} {digest : Bytes}

/-- The numbers of the argument are of the types of the source. -/
def TypedCall : Call → Prop
  | .put r _ => TypedRecord r
  | .replace _ r _ => TypedRecord r
  | _ => True

/-- While a finalization is under way, a replacement by a paper record keeps the owner. -/
def ScopeKept (s : SessionSupervisorLeaseStore) : Call → Prop
  | .replace currentToken r _ => isPaper r = true → s.isOpen = true →
    ∀ found, s.find currentToken = some found → isPaper found = true ∧ ownerOf found = ownerOf r
  | _ => True

/-! ### Rows -/

lemma readable_of_same (h : ReadableRecord sha256 r) (hs : sameLeaseFields r r' = true)
    (hv : validPaperFinalizationRecord r' = true)
    (hu : r'.paperFinalizationState ≠ .auditSealed) : ReadableRecord sha256 r' := by
  obtain ⟨hl, hc, -⟩ := validMutableLeaseRecord_iff.mp h.valid
  refine ⟨?_, validMutableLeaseRecord_iff.mpr ⟨?_, ?_, hv⟩, validSealedReceipt_of_unsealed hu⟩
  · rw [eq_of_same hs]
    exact ⟨h.typed.1, h.typed.2, h.typed.3, h.typed.4⟩
  · rw [eq_of_same hs]
    exact hl
  · rw [eq_of_same hs]
    exact hc

lemma SealChecked.readable (h : SealChecked sha256 s q) (hr : r ∈ s.paper)
    (hrc : ReadableRecord sha256 r) (hsa : r.paperFinalizationState = .fenceComplete) :
    ReadableRecord sha256 (sealedRecord q r) := by
  have hp := (mem_paper.mp hr).2
  have hg := h.group r hr
  simp only [sealMismatch] at hg
  split_ifs at hg with hre hsc hb
  simp only [not_or, not_not] at hb
  obtain ⟨hrv, hf, hst, hc, -⟩ := hb
  obtain ⟨ha, hd⟩ := scopeMismatch_eq_false.mp (Bool.eq_false_iff.mpr hsc)
  have hq := h.request
  simp only [validSealRequest, Bool.and_eq_true, decide_eq_true_eq] at hq
  obtain ⟨⟨⟨⟨⟨-, hdg⟩, he⟩, hl⟩⟩, ht⟩ := hq
  obtain ⟨hls, hsc', hv⟩ := validMutableLeaseRecord_iff.mp hrc.valid
  have hs : sealedRecord q r =
      { r with
        paperFinalizationState := .auditSealed
        finalizationReceiptSha256 := q.receiptSha256
        finalizationReceipt := q.receipt } := by
    rw [sealedRecord, if_pos hp]
  rw [hs]
  refine ⟨⟨hrc.typed.1, hrc.typed.2, hrc.typed.3, hrc.typed.4⟩,
    validMutableLeaseRecord_iff.mpr ⟨hls, hsc', ?_⟩, ?_⟩
  · simp only [validPaperFinalizationRecord, hsa] at hv ⊢
    simp_all
  have hrt := h.receipt
  simp only [validSealedReceipt, ne_eq, not_true_eq_false, decide_false, Bool.false_or,
    Bool.and_eq_true, decide_eq_true_eq]
  refine ⟨ht, ?_⟩
  simp only [hrv, hf, hst, hc, ha, hd]
  exact hrt

lemma Rows.seal (hs : Rows sha256 s)
    (h : ∀ r ∈ s.records, ReadableRecord sha256 (sealedRecord q r)) :
    Rows sha256 { s with records := s.records.map (sealedRecord q) } := by
  have hf : ∀ r, isWatch (sealedRecord q r) = isWatch r ∧
      (sealedRecord q r).agentId = r.agentId ∧ (sealedRecord q r).sessionId = r.sessionId := by
    intro r
    simp only [sealedRecord]
    split <;> exact ⟨rfl, rfl, rfl⟩
  constructor
  · have ho := hs.recordOrder
    rw [SortedByKey.Ordered] at ho ⊢
    apply List.pairwise_map.mpr
    simpa only [token_sealedRecord] using ho
  · exact hs.ackOrder
  · intro r' hr'
    obtain ⟨r, hr, rfl⟩ := List.mem_map.mp hr'
    exact h r hr
  · exact hs.ack
  · intro r₁ hr₁
    obtain ⟨r₁, hl₁, rfl⟩ := List.mem_map.mp hr₁
    apply watchOwnerExists_eq_false.mpr
    intro hw₁ r₂ hr₂ he hw₂ ha hss
    obtain ⟨r₂, hl₂, rfl⟩ := List.mem_map.mp hr₂
    simp only [hf, token_sealedRecord] at hw₁ he hw₂ ha hss
    exact watchOwnerExists_eq_false.mp (hs.watch r₁ hl₁) hw₁ r₂ hl₂ he hw₂ ha hss

/-- The acknowledgement of a sealed group. -/
lemma AckChecked.readable {q : SessionSupervisorTerminalAckRequest} {receipt : Bytes}
    (h : AckChecked sha256 s q receipt) (hs : Rows sha256 s) :
    ReadableAck sha256 (createdAck q receipt) := by
  obtain ⟨r, hr, hrc, _, hm⟩ := h.sealed
  obtain ⟨owner, howner, ha⟩ := h.owner
  have he := hs.record r (mem_paper.mp hr).1
  simp only [ackMismatch] at hm
  split_ifs at hm with _ _ hb _
  simp only [not_or, not_not] at hb
  have hd : q.receiptSha256 = prefixedSha256 sha256 receipt := by
    have hl := he.receipt
    simp only [validSealedReceipt, hb.1, ne_eq, not_true_eq_false, decide_false, Bool.false_or,
      Bool.and_eq_true, decide_eq_true_eq] at hl
    rw [← hb.2.2.2.2.2.1, hl.1, hrc]
  have hc := h.accepted
  simp only [ackRefusal] at hc
  split_ifs at hc with hv hf ht
  simp only [not_or, not_not, Bool.not_eq_true', Bool.not_eq_false] at hv hf ht
  obtain ⟨htm, htr, hacc, hdm⟩ := ht
  constructor
  · simp only [isAcknowledgingOwner, Bool.and_eq_true, decide_eq_true_eq] at ha
    have hy := (hs.record owner (mem_paper.mp howner).1).typed.leaseGeneration
    rw [ha.2] at hy
    exact hy
  · simp only [validParsedAck, Bool.and_eq_true, decide_eq_true_eq]
    refine ⟨⟨⟨⟨hv, hd⟩, htm⟩, ?_⟩, htr⟩
    rw [hacc, hdm]
    exact hf

lemma Change.rows (hs : Readable sha256 s) (ht : TypedCall call)
    (hc : Change sha256 s call next) : Rows sha256 next := by
  cases hc with
  | same => exact hs.toRows
  | put r outcome valid idle unretired free closed watchFree =>
    have hst : r.paperFinalizationState = .none := by
      simp only [finalizing, Bool.or_eq_false_iff, decide_eq_false_iff_not, not_not] at idle
      exact idle.2
    apply hs.toRows.putRecord
    · exact ⟨ht, valid, validSealedReceipt_of_unsealed (by simp [hst])⟩
    · exact watchOwnerExists_of_none watchFree _
  | remove => exact hs.toRows.filter ..
  | replace ct r found outcome valid hf unretired fst state kept free
      watchFree =>
    apply (hs.toRows.filter _).putRecord
    · exact ⟨ht, valid, validSealedReceipt_of_unsealed (by simp [state])⟩
    · apply watchOwnerExists_eq_false.mpr
      intro hw r' hr' _ hw' ha
      obtain ⟨hr', he⟩ := List.mem_filter.mp hr'
      exact watchOwnerExists_eq_false.mp watchFree hw r' hr' (by simpa using he) hw' ha
  | advance est r pv outcome hf same valid moved =>
    obtain ⟨hm, -⟩ := find_some hf
    apply hs.toRows.putRecord
    · apply readable_of_same (hs.record pv hm) same valid
      rcases moved with ⟨-, hst⟩ | ⟨-, hst⟩ <;> simp [hst]
    · rw [eq_of_same same]
      exact hs.watch pv hm
  | sealGroup q outcome sl checked =>
    have hl := hs.sound.sealRecords_eq sl q
    rw [hl]
    apply hs.toRows.seal
    intro r hr
    cases hp : isPaper r with
    | false =>
      rw [sealedRecord, if_neg (by simp [hp])]
      exact hs.record r hr
    | true =>
      have hm := mem_paper.mpr ⟨hr, hp⟩
      apply checked.readable hm (hs.record r hr)
      rcases sl.states r hm with hcm | hl'
      · exact hcm
      · obtain ⟨r', hr', hu⟩ := sl.unsealed
        exact absurd (hs.sound.sealed r hm hl' r' hr') hu
  | acknowledge q receipt outcome ack checked =>
    exact (hs.toRows.filter _).putAck (checked.readable hs.toRows)

/-! ### Groups -/

lemma isBound_of_closed (h : s.isOpen = false) (hr : r ∈ s.records) : isBound r = false := by
  cases hb : isBound r with
  | false => rfl
  | true =>
    rw [isOpen_of_mem hr (by simpa [isBound] using hb)] at h
    cases h

/-- The owner set does not depend on the other fields of the leases. -/
lemma paperOwnerSetSha256_map {f : SessionSupervisorLeaseRecord → SessionSupervisorLeaseRecord}
    (h : paperOwnerSetSha256 sha256 l = .ok digest)
    (ho : ∀ r ∈ l, ownerOf (f r) = ownerOf r)
    (htk : ∀ r ∈ l, (f r).ownerTokenSha256 = [] ∨ (f r).ownerTokenSha256 = r.ownerTokenSha256 ∨
      (f r).ownerTokenSha256 = prefixedSha256 sha256 ((f r).token ++ [newline])) :
    paperOwnerSetSha256 sha256 (l.map f) = .ok digest := by
  have hl : (l.map f).map (ownerLine sha256) = l.map (ownerLine sha256) := by
    rw [map_map]
    apply map_congr_left
    intro r hr
    have hf := ho r hr
    simp only [ownerOf, Prod.mk.injEq] at hf
    simp only [Function.comp_apply, ownerLine, hf]
  simp only [paperOwnerSetSha256] at h ⊢
  split_ifs at h with hi he
  rw [if_neg, if_neg, canonicalOwnerSet, hl]
  · exact h
  · simpa using he
  · simp only [List.any_eq_true, Bool.and_eq_true, decide_eq_true_eq, not_exists, not_and, not_not]
      at hi ⊢
    intro r' hr' hne
    obtain ⟨r, hr, rfl⟩ := List.mem_map.mp hr'
    rcases htk r hr with hnl | hk | hc
    · exact absurd hnl hne
    · have ht : (f r).token = r.token := congrArg Prod.fst (ho r hr)
      rw [hk, ht]
      exact hi r hr (hk ▸ hne)
    · exact hc

lemma paper_putRecord (hs : Rows sha256 s) (hf : s.find r.token = some found)
    (hp : isPaper r = isPaper found) :
    (s.putRecord r).paper = s.paper.map fun x => if x.token = r.token then r else x := by
  obtain ⟨hm, ht⟩ := find_some hf
  rw [paper, putRecord_records, SortedByKey.insert_eq_map hs.recordOrder hm ht, paper, filter_map]
  congr 1
  apply filter_congr
  intro x hx
  simp only [Function.comp_apply]
  split
  · rename_i heq
    rw [hs.recordOrder.eq_of_key hx hm (heq.trans ht.symm), hp]
  · rfl

lemma paperOwnerSetSha256_putRecord (hs : Rows sha256 s)
    (hf : s.find r.token = some found) (ho : ownerOf r = ownerOf found)
    (ht : r.ownerTokenSha256 = [] ∨
      r.ownerTokenSha256 = prefixedSha256 sha256 (r.token ++ [newline]))
    (h : paperOwnerSetSha256 sha256 s.paper = .ok digest) :
    paperOwnerSetSha256 sha256 (s.paper.map fun x => if x.token = r.token then r else x) =
      .ok digest := by
  obtain ⟨hm, hk⟩ := find_some hf
  apply paperOwnerSetSha256_map h
  · intro x hx
    split
    · rename_i heq
      rw [hs.recordOrder.eq_of_key (mem_paper.mp hx).1 hm (heq.trans hk.symm), ho]
    · rfl
  · intro x _
    split
    · exact ht.imp_right .inr
    · exact .inr (.inl rfl)

/-- The owner of a lease under finalization stays. -/
lemma Grouped.replace (hs : Readable sha256 s) (hd : s.find r.token = some found)
    (ho : s.isOpen = true) (hp : isPaper r = true) (hp' : isPaper found = true)
    (hw : ownerOf found = ownerOf r) (hv : validPaperFinalizationRecord r = true)
    (hfn : found.paperFinalizationState = .none) (ht : r.paperFinalizationState = .none)
    (hk : found.paperFinalizationRequired = true → r.paperFinalizationRequired = true) :
    Grouped sha256 (s.putRecord r).paper := by
  obtain ⟨hmm, -⟩ := find_some hd
  have hf := mem_paper.mpr ⟨hmm, hp'⟩
  have hm := paper_putRecord hs.toRows hd (hp.trans hp'.symm)
  have hr := hs.sound.required ho
  -- a record of the group stands for its binding
  obtain ⟨g, hg, hgs⟩ := isOpen_iff.mp ho
  have hb : isBound g = true := by simpa [isBound] using hgs
  have hgr := mem_paper.mpr ⟨hg, (hs.sound.bound g hg hgs).1⟩
  apply grouped_of_binding (g := g)
  · intro x hx
    have hc := hs.group.scope g hgr hb
    rcases mem_paper_putRecord hx with rfl | ⟨hx, -⟩
    · have hfo := scopeMismatch_eq_false.mp (hc found hf)
      simp only [ownerOf, Prod.mk.injEq] at hw
      rw [hw.2.2.1, hw.2.2.2] at hfo
      exact scopeMismatch_eq_false.mpr hfo
    · exact hc x hx
  · intro x hx
    rcases mem_paper_putRecord hx with rfl | ⟨hx, -⟩
    · exact hk (hr found hf)
    · exact hr x hx
  · intro x hx hxb
    rcases mem_paper_putRecord hx with rfl | ⟨hx, -⟩
    · simp [isBound, ht] at hxb
    · exact hs.group.same g hgr hb x hx hxb
  · rw [hm, length_map]
    exact hs.group.count g hgr hb
  · rw [hm]
    exact paperOwnerSetSha256_putRecord hs.toRows hd hw.symm
      (.inl (unbound_of_none hv ht).2) (hs.group.owners g hgr hb)
  · intro g' hg' hl
    rcases mem_paper_putRecord hg' with rfl | ⟨hg', -⟩
    · simp [isSealed, ht] at hl
    · have ha := (hs.group.sealed g' hg' hl found hf).1
      simp [isSealed, hfn] at ha

lemma AdvanceChecked.grouped (h : AdvanceChecked sha256 s found r) (hs : Readable sha256 s)
    (hfo : s.find r.token = some found) (hsm : sameLeaseFields found r = true)
    (hv : validPaperFinalizationRecord r = true)
    (hmv : (found.paperFinalizationState = .none ∧ r.paperFinalizationState = .fencePending) ∨
      (found.paperFinalizationState = .fencePending ∧ r.paperFinalizationState = .fenceComplete)) :
    Grouped sha256 (s.putRecord r).paper := by
  obtain ⟨hmm, -⟩ := find_some hfo
  have hd : r.paperFinalizationState ≠ .none := by
    rcases hmv with ⟨-, ht⟩ | ⟨-, ht⟩ <;> simp [ht]
  have hu : isSealed found = false ∧ isSealed r = false := by
    rcases hmv with ⟨hf, hto⟩ | ⟨hf, hto⟩ <;> simp [isSealed, hf, hto]
  have hr := required_of_bound hv hd
  have hp := isPaper_of_required hv hr
  have hp' : isPaper found = true := (isPaper_of_same hsm).symm.trans hp
  have hfn := mem_paper.mpr ⟨hmm, hp'⟩
  have hm := paper_putRecord hs.toRows hfo (isPaper_of_same hsm)
  have hc : ∀ x ∈ s.paper, x.paperFinalizationRequired = true ∧
      x.ownerAccount = r.ownerAccount ∧ x.ownerExecutionDomain = r.ownerExecutionDomain ∧
      (x.token ≠ r.token → isBound x = true → sameFinalizationGroup x r = true) := by
    intro x hx
    have hnone := h.group x hx
    simp only [advanceMismatch] at hnone
    split_ifs at hnone with hnd hsc hgr
    simp only [not_or, not_not] at hsc
    refine ⟨by simpa using hnd, hsc.1, hsc.2, ?_⟩
    intro he hb
    simpa [he, isBound] using fun ho => hgr ⟨he, by simpa [isBound] using hb, ho⟩
  apply grouped_of_binding (g := r)
  · intro x hx
    rcases mem_paper_putRecord hx with rfl | ⟨hx, -⟩
    · exact scopeMismatch_eq_false.mpr ⟨rfl, rfl⟩
    · exact scopeMismatch_eq_false.mpr ⟨(hc x hx).2.1, (hc x hx).2.2.1⟩
  · intro x hx
    rcases mem_paper_putRecord hx with rfl | ⟨hx, -⟩
    · exact hr
    · exact (hc x hx).1
  · intro x hx hb
    rcases mem_paper_putRecord hx with rfl | ⟨hx, he⟩
    · exact sameFinalizationGroup_iff.mpr ⟨rfl, rfl, rfl, rfl⟩
    · obtain ⟨h1, h2, h3, h4⟩ := sameFinalizationGroup_iff.mp ((hc x hx).2.2.2 he hb)
      exact sameFinalizationGroup_iff.mpr ⟨h1.symm, h2.symm, h3.symm, h4.symm⟩
  · rw [hm, length_map]
    exact h.count
  · rw [hm]
    exact paperOwnerSetSha256_putRecord hs.toRows hfo (ownerOf_of_same hsm)
      (.inr h.ownerToken) h.ownerSet
  · intro g hg hl
    rcases mem_paper_putRecord hg with rfl | ⟨hg, -⟩
    · rw [hu.2] at hl
      cases hl
    · have ha := (hs.group.sealed g hg hl found hfn).1
      rw [hu.1] at ha
      cases ha

lemma SealChecked.grouped (h : SealChecked sha256 s q) :
    Grouped sha256 (s.paper.map (sealedRecord q)) := by
  have hp : ∀ r ∈ s.paper, isPaper r = true := fun r hr => (mem_paper.mp hr).2
  have hc : ∀ x ∈ s.paper.map (sealedRecord q), isSealed x = true ∧
      x.paperFinalizationRequired = true ∧ scopeMismatch (s.paper.headD {}) x = false ∧
      x.recoveryId = q.recoveryId ∧ x.finalizationId = q.finalizationId ∧
      x.expectedOwnerSetSha256 = q.expectedOwnerSetSha256 ∧
      x.expectedOwnerCount = q.expectedOwnerCount ∧ x.finalizationReceiptSha256 = q.receiptSha256 ∧
      x.finalizationReceipt = q.receipt := by
    intro x hx
    obtain ⟨r, hr, rfl⟩ := List.mem_map.mp hx
    have hgr := h.group r hr
    simp only [sealMismatch] at hgr
    split_ifs at hgr with hq hsc hb
    simp only [not_or, not_not] at hb
    rw [sealedRecord, if_pos (hp r hr)]
    exact ⟨rfl, by simpa using hq, Bool.eq_false_iff.mpr hsc, hb.1, hb.2.1,
      hb.2.2.1, hb.2.2.2.1, rfl, rfl⟩
  apply grouped_of_binding (g := { s.paper.headD {} with
    recoveryId := q.recoveryId
    finalizationId := q.finalizationId
    expectedOwnerSetSha256 := q.expectedOwnerSetSha256
    expectedOwnerCount := q.expectedOwnerCount })
  · exact fun x hx => (hc x hx).2.2.1
  · exact fun x hx => (hc x hx).2.1
  · intro x hx _
    obtain ⟨-, -, -, h1, h2, h3, h4, -⟩ := hc x hx
    exact sameFinalizationGroup_iff.mpr ⟨h1.symm, h2.symm, h3.symm, h4.symm⟩
  · rw [length_map]
    exact h.count
  · apply paperOwnerSetSha256_map h.ownerSet
    · exact fun r _ => ownerOf_sealedRecord q
    · intro r hr
      rw [sealedRecord, if_pos (hp r hr)]
      exact .inr (.inl rfl)
  · intro g hg _ x hx
    obtain ⟨-, -, -, -, -, -, -, hd, ht⟩ := hc g hg
    obtain ⟨hs, -, -, -, -, -, -, hd', ht'⟩ := hc x hx
    exact ⟨hs, hd'.trans hd.symm, ht'.trans ht.symm⟩

/-! ### Calls -/

lemma Change.grouped (hs : Readable sha256 s) (hk : ScopeKept s call)
    (hc : Change sha256 s call next) : Grouped sha256 next.paper := by
  cases hc with
  | same => exact hs.group
  | put r outcome valid idle unretired free closed =>
    have hh : ∀ x ∈ s.records, x.token = r.token → isPaper x = false :=
      fun x hx heq => absurd heq (find_none free x hx)
    cases hp : isPaper r with
    | false =>
      rw [paper_putRecord_other hp hh]
      exact hs.group
    | true =>
      apply grouped_of_idle
      intro g hg
      have hi : finalizing g = false := by
        rcases mem_paper_putRecord hg with rfl | ⟨hg, -⟩
        · exact idle
        · exact closed hp g hg
      simp only [finalizing, Bool.or_eq_false_iff] at hi
      exact hi.2
  | remove tk found outcome hf idle =>
    cases ho : s.isOpen with
    | false =>
      exact grouped_of_idle fun g hg =>
        isBound_of_closed ho (mem_eraseRecord.mp (mem_paper.mp hg).1).1
    | true =>
      rw [hs.sound.paper_remove ho hf idle]
      exact hs.group
  | replace currentToken r found outcome valid hf unretired fe state kept free =>
    obtain ⟨-, ht⟩ := find_some hf
    cases ho : s.isOpen with
    | false =>
      apply grouped_of_idle
      intro g hg
      rcases mem_putRecord.mp (mem_paper.mp hg).1 with rfl | ⟨hg, -⟩
      · simp [isBound, state]
      · exact isBound_of_closed ho (mem_eraseRecord.mp hg).1
    | true =>
      cases hp : isPaper r with
      | true =>
        obtain ⟨hp', hw⟩ := hk hp ho found hf
        have hm : r.token = currentToken := by
          rw [← ht]
          exact (congrArg Prod.fst hw).symm
        subst hm
        rw [putRecord_eraseRecord]
        exact Grouped.replace hs hf ho hp hp' hw (valid_of_mutable valid) fe state kept
      | false =>
        rw [hs.sound.paper_replace ho hf valid kept free hp]
        exact hs.group
  | advance est r pv outcome hf same valid moved required checked =>
    exact checked.grouped hs hf same valid moved
  | sealGroup q outcome sl checked =>
    rw [hs.sound.paper_seal sl q]
    exact checked.grouped
  | acknowledge => exact grouped_of_idle (by simp)

lemma Change.conflict (hs : Readable sha256 s) (hc : Change sha256 s call next) :
    ∀ a ∈ next.acks, ∀ r ∈ next.paper, r.finalizationId ≠ a.finalizationId := by
  have hi : ∀ a ∈ s.acks, ∀ r, validMutableLeaseRecord r = true →
      r.paperFinalizationState = .none → r.finalizationId ≠ a.finalizationId := by
    intro a ha r hv ht heq
    rw [(unbound_of_none (valid_of_mutable hv) ht).1] at heq
    exact (hs.ack a ha).id_ne_nil heq.symm
  cases hc with
  | same => exact hs.conflict
  | put r outcome valid idle =>
    intro a ha r' hr'
    simp only [finalizing, Bool.or_eq_false_iff, decide_eq_false_iff_not, not_not] at idle
    rcases mem_paper_putRecord hr' with rfl | ⟨hr', -⟩
    · exact hi a ha _ valid idle.2
    · exact hs.conflict a ha r' hr'
  | remove => exact fun a ha r' hr' => hs.conflict a ha r' (mem_paper_eraseRecord hr')
  | replace ct r found outcome valid hf unretired fst state =>
    intro a ha r' hr'
    rcases mem_paper_putRecord hr' with rfl | ⟨hr', -⟩
    · exact hi a ha _ valid state
    · exact hs.conflict a ha r' (mem_paper_eraseRecord hr')
  | advance est r pv outcome hf same valid moved required checked =>
    intro a ha r' hr'
    rcases mem_paper_putRecord hr' with rfl | ⟨hr', -⟩
    · have hu := List.find?_eq_none.mp checked.unknown a ha
      exact fun heq => hu (by simp [heq])
    · exact hs.conflict a ha r' hr'
  | sealGroup q outcome sl =>
    rw [hs.sound.paper_seal sl q]
    intro a ha r' hr'
    obtain ⟨r, hr, rfl⟩ := List.mem_map.mp hr'
    rw [sealedRecord]
    split <;> exact hs.conflict a ha r hr
  | acknowledge => simp

lemma Readable.step (hs : Readable sha256 s) (ht : TypedCall call) (hk : ScopeKept s call) :
    Readable sha256 (s.step sha256 call) := by
  obtain ⟨next, hc, hh⟩ := step_change sha256 s call
  have hx : Readable sha256 next :=
    ⟨hc.rows hs ht, hc.grouped hs hk, hc.conflict hs⟩
  exact hx.of_holds hh

lemma readable_run {calls : List Call} (hs : Readable sha256 s)
    (hr : Guarded.Run (step sha256) (fun s call => TypedCall call ∧ ScopeKept s call) s calls) :
    Readable sha256 (calls.foldl (step sha256) s) :=
  hr.invariant hs fun _ _ hs ho => hs.step ho.1 ho.2

/-- From an empty store or from one that was loaded, in every run whose calls have arguments of the
types of the source and keep the owners of an open finalization: the store reads back what it
writes. -/
theorem reads_back {start : SessionSupervisorLeaseStore} {calls : List Call}
    (hstart : Holds start {} ∨
      ∃ plaintext loaded, parsePlaintext sha256 plaintext = .ok loaded ∧ Holds start loaded)
    (hrun : Guarded.Run (step sha256) (fun s call => TypedCall call ∧ ScopeKept s call) start
      calls) :
    let s := calls.foldl (step sha256) start
    parsePlaintext sha256 s.serializePlaintext = .ok { records := s.records, acks := s.acks } := by
  have hr : Readable sha256 start := by
    rcases hstart with he | ⟨plaintext, loaded, hp, hl⟩
    · exact readable_empty.of_holds he
    · exact (readable_of_parsePlaintext hp).of_holds hl
  exact (readable_run hr hrun).parsePlaintext

lemma beginFinalization_run :
    Guarded.Run (step zeroes) (fun s call => TypedCall call ∧ ScopeKept s call) {}
      (beginFinalization zeroes) := by
  have hp := putStore_reached
  rw [foldl_cons, foldl_cons, foldl_nil] at hp
  refine ⟨⟨?_, trivial⟩, ⟨?_, trivial⟩, ⟨?_, ?_⟩, ⟨trivial, trivial⟩, trivial⟩
  · constructor <;> decide
  · constructor <;> decide
  · constructor <;> decide
  · rw [hp]
    intro _ ho
    have hc : (putStore [paperLease, watchLease]).isOpen = false := by decide
    rw [hc] at ho
    cases ho

theorem reads_back_beginFinalization :
    let sha256 : Bytes → Bytes := fun _ => List.replicate 64 48
    let s := (beginFinalization sha256).foldl (step sha256) {}
    parsePlaintext sha256 s.serializePlaintext = .ok { records := s.records, acks := s.acks } :=
  reads_back (.inl ⟨rfl, rfl⟩) beginFinalization_run

set_option maxRecDepth 10000 in
/-- The WATCH lease that becomes a paper lease leaves a file that is refused. -/
theorem not_read_back_turnedLease :
    let s := (beginFinalization zeroes).foldl (step zeroes) {}
    let call := Call.replace watchLease.token turnedLease .committed
    (s.perform zeroes call).1 = none ∧
      ∀ loaded, parsePlaintext zeroes (s.step zeroes call).serializePlaintext ≠ .ok loaded := by
  have hp : (parsePlaintext zeroes
      (putStore [fencedLease zeroes, turnedLease]).serializePlaintext).toOption.isNone = true := by
    decide +kernel
  dsimp only
  rw [fencedStore_reached, step, replace_turnedLease]
  refine ⟨rfl, fun loaded hl => ?_⟩
  rw [hl] at hp
  cases hp

end SessionSupervisorLeaseStore

end Hepta
