import Hepta.Supervisor.RoundTrip

/-!
# The finalization group of a store that is read
-/

namespace Hepta

open List Bytes LeaseCodec

namespace SessionSupervisorLeaseStore

variable {sha256 : Bytes → Bytes} {s : SessionSupervisorLeaseStore} {scan scan' : GroupScan}
  {l rest : List SessionSupervisorLeaseRecord} {r g : SessionSupervisorLeaseRecord}

def isBound (r : SessionSupervisorLeaseRecord) : Bool := r.paperFinalizationState ≠ .none

/-- All paper leases belong to the group of any one that is bound to a group. -/
structure Grouped (sha256 : Bytes → Bytes) (paper : List SessionSupervisorLeaseRecord) : Prop where
  scope : ∀ g ∈ paper, isBound g = true → ∀ r ∈ paper, scopeMismatch g r = false
  required : ∀ g ∈ paper, isBound g = true → ∀ r ∈ paper, r.paperFinalizationRequired = true
  same : ∀ g ∈ paper, isBound g = true → ∀ r ∈ paper, isBound r = true →
    sameFinalizationGroup g r = true
  count : ∀ g ∈ paper, isBound g = true → paper.length = g.expectedOwnerCount
  owners : ∀ g ∈ paper, isBound g = true →
    paperOwnerSetSha256 sha256 paper = .ok g.expectedOwnerSetSha256
  sealed : ∀ g ∈ paper, isSealed g = true → ∀ r ∈ paper, isSealed r = true ∧
    r.finalizationReceiptSha256 = g.finalizationReceiptSha256 ∧
    r.finalizationReceipt = g.finalizationReceipt

/-- A store that is read back as it is written. -/
structure Readable (sha256 : Bytes → Bytes) (s : SessionSupervisorLeaseStore) : Prop
    extends Rows sha256 s where
  group : Grouped sha256 s.paper
  conflict : ∀ a ∈ s.acks, ∀ r ∈ s.paper, r.finalizationId ≠ a.finalizationId

lemma isBound_of_isSealed (h : isSealed r = true) : isBound r = true := by
  simp only [isSealed, decide_eq_true_eq] at h
  simp [isBound, h]

lemma scopeMismatch_eq_false : scopeMismatch g r = false ↔
    r.ownerAccount = g.ownerAccount ∧ r.ownerExecutionDomain = g.ownerExecutionDomain := by
  simp [scopeMismatch]

lemma sameFinalizationGroup_iff : sameFinalizationGroup g r = true ↔
    g.recoveryId = r.recoveryId ∧ g.finalizationId = r.finalizationId ∧
      g.expectedOwnerSetSha256 = r.expectedOwnerSetSha256 ∧
      g.expectedOwnerCount = r.expectedOwnerCount := by
  simp [sameFinalizationGroup, and_assoc]

lemma grouped_of_idle (h : ∀ g ∈ l, isBound g = false) : Grouped sha256 l := by
  have ho : ∀ g ∈ l, ¬isBound g = true := fun g hg => by simp [h g hg]
  refine ⟨?_, ?_, ?_, ?_, ?_, fun g hg hs => absurd (isBound_of_isSealed hs) (ho g hg)⟩ <;>
    exact fun g hg hb => absurd hb (ho g hg)

lemma grouped_of_binding (hsc : ∀ r ∈ l, scopeMismatch g r = false)
    (hq : ∀ r ∈ l, r.paperFinalizationRequired = true)
    (hm : ∀ r ∈ l, isBound r = true → sameFinalizationGroup g r = true)
    (hc : l.length = g.expectedOwnerCount)
    (ho : paperOwnerSetSha256 sha256 l = .ok g.expectedOwnerSetSha256)
    (hl : ∀ g' ∈ l, isSealed g' = true → ∀ r ∈ l, isSealed r = true ∧
      r.finalizationReceiptSha256 = g'.finalizationReceiptSha256 ∧
      r.finalizationReceipt = g'.finalizationReceipt) : Grouped sha256 l := by
  have hs := fun r hr => scopeMismatch_eq_false.mp (hsc r hr)
  have hgr := fun r hr hb => sameFinalizationGroup_iff.mp (hm r hr hb)
  constructor
  · intro g' hg' _ r hr
    obtain ⟨ha, hd⟩ := hs g' hg'
    obtain ⟨ha', hd'⟩ := hs r hr
    exact scopeMismatch_eq_false.mpr ⟨ha'.trans ha.symm, hd'.trans hd.symm⟩
  · exact fun g' hg' _ r hr => hq r hr
  · intro g' hg' hbd r hr hbd'
    obtain ⟨h1, h2, h3, h4⟩ := hgr g' hg' hbd
    obtain ⟨h1', h2', h3', h4'⟩ := hgr r hr hbd'
    exact sameFinalizationGroup_iff.mpr ⟨h1.symm.trans h1', h2.symm.trans h2', h3.symm.trans h3',
      h4.symm.trans h4'⟩
  · intro g' hg' hbd
    rw [hc, (hgr g' hg' hbd).2.2.2]
  · intro g' hg' hbd
    rw [ho, (hgr g' hg' hbd).2.2.1]
  · exact hl

/-! ### The loop over the paper leases -/

/-- What the empty strings of the scan stand for: the accounts and the digests of sealed records are
not empty. -/
structure Marked (r : SessionSupervisorLeaseRecord) : Prop where
  account : r.ownerAccount ≠ []
  digest : isSealed r = true → r.finalizationReceiptSha256 ≠ []

/-- What the loop has seen of the leases. -/
structure Scanned (l : List SessionSupervisorLeaseRecord) (scan : GroupScan) : Prop where
  ofGroup : ∀ g, scan.group = some g → g ∈ l ∧ isBound g = true ∧
    ∀ r ∈ l, isBound r = true → sameFinalizationGroup g r = true
  noGroup : scan.group = none → ∀ r ∈ l, isBound r = false
  anySealed : scan.anySealed = true ↔ ∃ r ∈ l, isSealed r = true
  allSealed : scan.allBoundSealed = true ↔ ∀ r ∈ l, isSealed r = true
  scope : ∀ r ∈ l, isBound r = true → r.ownerAccount = scan.finalizationOwnerAccount ∧
    r.ownerExecutionDomain = scan.finalizationOwnerDomain
  receipt : ∀ r ∈ l, isSealed r = true → r.finalizationReceiptSha256 = scan.sealedReceiptSha256 ∧
    r.finalizationReceipt = scan.sealedReceipt
  fresh : scan.finalizationOwnerAccount ≠ [] → ∃ r ∈ l, isBound r = true
  unsealed : scan.sealedReceiptSha256 ≠ [] → ∃ r ∈ l, isSealed r = true

lemma scanned_empty : Scanned [] {} := by
  constructor <;> simp

variable (h : Scanned l scan)

include h

lemma Scanned.idle (hr : isBound r = false) :
    Scanned (l ++ [r]) { scan with allBoundSealed := false } := by
  have hu : isSealed r = false :=
    Bool.eq_false_iff.mpr fun hs => by simp [isBound_of_isSealed hs] at hr
  constructor
  · intro g hg
    obtain ⟨hm, hb, hsm⟩ := h.ofGroup g hg
    exact ⟨by simp [hm], hb, List.forall_mem_append.mpr ⟨hsm, by simp [hr]⟩⟩
  · exact fun hnn => List.forall_mem_append.mpr ⟨h.noGroup hnn, by simp [hr]⟩
  · simpa [hu] using h.anySealed
  · simp [hu]
  · exact List.forall_mem_append.mpr ⟨h.scope, by simp [hr]⟩
  · exact List.forall_mem_append.mpr ⟨h.receipt, by simp [hu]⟩
  · intro he
    obtain ⟨r', hr', hb'⟩ := h.fresh he
    exact ⟨r', by simp [hr'], hb'⟩
  · intro he
    obtain ⟨r', hr', hs'⟩ := h.unsealed he
    exact ⟨r', by simp [hr'], hs'⟩

lemma Scanned.bound (hm : ∀ r' ∈ l, Marked r') (hr : isBound r = true)
    (hsc : scan.finalizationOwnerAccount ≠ [] → r.ownerAccount = scan.finalizationOwnerAccount ∧
        r.ownerExecutionDomain = scan.finalizationOwnerDomain)
    (ho : ∀ g, scan.group = some g → sameFinalizationGroup g r = true)
    (hc : isSealed r = true → scan.sealedReceiptSha256 ≠ [] →
      r.finalizationReceiptSha256 = scan.sealedReceiptSha256 ∧
        r.finalizationReceipt = scan.sealedReceipt) :
    Scanned (l ++ [r]) ((scan.scope r).receipt r) := by
  constructor
  · intro g hg
    cases hf : scan.group with
    | none =>
      have hgr : r = g := by simpa [GroupScan.receipt, GroupScan.scope, hf] using hg
      subst hgr
      refine ⟨by simp, hr, List.forall_mem_append.mpr ⟨?_, ?_⟩⟩
      · intro r' hr' hb'
        rw [h.noGroup hf r' hr'] at hb'
        cases hb'
      · simp [sameFinalizationGroup_iff]
    | some first =>
      have hgr : first = g := by simpa [GroupScan.receipt, GroupScan.scope, hf] using hg
      subst hgr
      obtain ⟨hmm, hb, hsm⟩ := h.ofGroup first hf
      exact ⟨by simp [hmm], hb,
        List.forall_mem_append.mpr ⟨hsm, by simp [ho first hf]⟩⟩
  · intro hnn
    simp [GroupScan.receipt, GroupScan.scope] at hnn
  · simp only [GroupScan.receipt, GroupScan.scope, Bool.or_eq_true, h.anySealed, mem_append,
      mem_singleton, or_and_right, exists_or, exists_eq_left]
  · simp only [GroupScan.receipt, GroupScan.scope, Bool.and_eq_true, h.allSealed, mem_append,
      mem_singleton, or_imp, forall_and, forall_eq]
  · by_cases he : scan.finalizationOwnerAccount = []
    · refine List.forall_mem_append.mpr ⟨fun r' hr' hb' => ?_, ?_⟩
      · exact absurd ((h.scope r' hr' hb').1.trans he) (hm r' hr').account
      · simp [GroupScan.receipt, GroupScan.scope, he]
    · simp only [GroupScan.receipt, GroupScan.scope, he, if_false]
      exact List.forall_mem_append.mpr ⟨h.scope, by simp [hsc he]⟩
  · by_cases he : scan.sealedReceiptSha256 = []
    · refine List.forall_mem_append.mpr ⟨fun r' hr' hs => ?_, ?_⟩
      · exact absurd ((h.receipt r' hr' hs).1.trans he) ((hm r' hr').digest hs)
      · simp +contextual [GroupScan.receipt, GroupScan.scope, he]
    · simp only [GroupScan.receipt, GroupScan.scope, he, and_false, if_false]
      exact List.forall_mem_append.mpr ⟨h.receipt,
        by simpa using fun hs => hc hs he⟩
  · exact fun _ => ⟨r, by simp, hr⟩
  · intro hne
    cases hs : isSealed r with
    | true => exact ⟨r, by simp, hs⟩
    | false =>
      obtain ⟨r', hr', hs'⟩ := h.unsealed (by
        simpa [GroupScan.receipt, GroupScan.scope, hs] using hne)
      exact ⟨r', by simp [hr'], hs'⟩

lemma Scanned.add (hm : ∀ r' ∈ l, Marked r')
    (ha : scan.add r = .ok scan') : Scanned (l ++ [r]) scan' := by
  simp only [GroupScan.add] at ha
  split at ha
  · rename_i hs
    rw [← Except.ok.inj ha]
    exact h.idle (by simp [isBound, hs])
  · rename_i hs
    split_ifs at ha with hc hgr hr
    rw [← Except.ok.inj ha]
    apply h.bound hm
    · simpa [isBound] using hs
    · intro he
      simpa [he] using hc
    · intro g hg
      simpa [hg] using hgr
    · intro hl he
      simpa [hl, he] using hr

/-- A lease that fits the ones before it is accepted. -/
lemma Scanned.add_ok (hf : ∀ g ∈ l, isBound g = true → isBound r = true →
      scopeMismatch g r = false ∧ sameFinalizationGroup g r = true ∧
        (isSealed g = true → isSealed r = true →
          r.finalizationReceiptSha256 = g.finalizationReceiptSha256 ∧
            r.finalizationReceipt = g.finalizationReceipt)) :
    ∃ scan', scan.add r = .ok scan' := by
  by_cases hs : r.paperFinalizationState = .none
  · exact ⟨_, by rw [GroupScan.add, if_pos hs]⟩
  have hbd : isBound r = true := by simpa [isBound] using hs
  have hc : ¬(scan.finalizationOwnerAccount ≠ [] ∧ (r.ownerAccount ≠ scan.finalizationOwnerAccount ∨
        r.ownerExecutionDomain ≠ scan.finalizationOwnerDomain)) := by
    rintro ⟨hne, ho⟩
    obtain ⟨g, hg, hb⟩ := h.fresh hne
    obtain ⟨ha, hm⟩ := scopeMismatch_eq_false.mp (hf g hg hb hbd).1
    obtain ⟨ha', hm'⟩ := h.scope g hg hb
    rcases ho with ho | ho
    · exact ho (ha.trans ha')
    · exact ho (hm.trans hm')
  have hgr : ¬(scan.group.any fun group => !sameFinalizationGroup group r) = true := by
    cases hfs : scan.group with
    | none => simp
    | some g =>
      obtain ⟨hg, hb, -⟩ := h.ofGroup g hfs
      simp [(hf g hg hb hbd).2.1]
  have hr : ¬(isSealed r = true ∧ scan.sealedReceiptSha256 ≠ [] ∧
      (r.finalizationReceiptSha256 ≠ scan.sealedReceiptSha256 ∨
        r.finalizationReceipt ≠ scan.sealedReceipt)) := by
    rintro ⟨hl, hne, ho⟩
    obtain ⟨g, hg, hgs⟩ := h.unsealed hne
    obtain ⟨hd, ht⟩ :=
      (hf g hg (isBound_of_isSealed hgs) hbd).2.2 hgs hl
    obtain ⟨hd', ht'⟩ := h.receipt g hg hgs
    rcases ho with ho | ho
    · exact ho (hd.trans hd')
    · exact ho (ht.trans ht')
  exact ⟨_, by rw [GroupScan.add, if_neg hs, if_neg hc, if_neg hgr, if_neg hr]⟩

lemma Scanned.run (hm : ∀ r' ∈ l ++ rest, Marked r')
    (hrn : rest.foldlM GroupScan.add scan = .ok scan') : Scanned (l ++ rest) scan' := by
  induction rest generalizing l scan with
  | nil =>
    rw [append_nil, ← Except.ok.inj hrn]
    exact h
  | cons r rest ih =>
    rw [foldlM_cons] at hrn
    cases ha : scan.add r with
    | error =>
      rw [ha] at hrn
      cases hrn
    | ok =>
      rw [ha] at hrn
      have hnext := h.add (fun r' hr' => hm r' (by simp [hr'])) ha
      rw [append_cons] at hm ⊢
      exact ih hnext hm hrn

lemma Scanned.run_ok (hm : ∀ r' ∈ l ++ rest, Marked r') (hgr : Grouped sha256 (l ++ rest))
    : ∃ scan', rest.foldlM GroupScan.add scan = .ok scan' := by
  induction rest generalizing l scan with
  | nil => exact ⟨scan, rfl⟩
  | cons r rest ih =>
    obtain ⟨_, ha⟩ := h.add_ok (r := r) (by
      intro g hg hb hd
      have hmm : g ∈ l ++ r :: rest := by simp [hg]
      refine ⟨hgr.scope g hmm hb r (by simp),
        hgr.same g hmm hb r (by simp) hd, ?_⟩
      intro hs _
      exact (hgr.sealed g hmm hs r (by simp)).2)
    have hnext := h.add (fun r' hr' => hm r' (by simp [hr'])) ha
    rw [append_cons] at hm hgr
    obtain ⟨scan', hrn⟩ := ih hnext hm hgr
    exact ⟨scan', by rw [foldlM_cons, ha]; exact hrn⟩

/-! ### The whole store -/

lemma checkGroup_eq_none : checkGroup sha256 l scan = none ↔ Grouped sha256 l := by
  cases hgo : scan.group with
  | none =>
    simp only [checkGroup, hgo, true_iff]
    exact grouped_of_idle (h.noGroup hgo)
  | some group =>
    obtain ⟨hm, hb, hsm⟩ := h.ofGroup group hgo
    have hh : checkGroup sha256 l scan = none ↔
        (∀ r ∈ l, scopeMismatch group r = false) ∧ (∀ r ∈ l, r.paperFinalizationRequired = true) ∧
          l.length = group.expectedOwnerCount ∧
          paperOwnerSetSha256 sha256 l = .ok group.expectedOwnerSetSha256 ∧
          (scan.anySealed = true → scan.allBoundSealed = true) := by
      simp only [checkGroup, hgo]
      split_ifs with hsc hq
      · simp only [false_iff]
        rintro ⟨hsc', -⟩
        simp at hsc
        obtain ⟨r, hr, hms⟩ := hsc
        rw [hsc' r hr] at hms
        cases hms
      · simp only [false_iff]
        rintro ⟨-, hq', hc', -⟩
        simp only [Bool.or_eq_true, Bool.not_eq_true', all_eq_false, decide_eq_true_eq] at hq
        rcases hq with ⟨r, hr, hnt⟩ | hc
        · exact hnt (hq' r hr)
        · exact hc hc'
      · simp only [Bool.not_eq_true', Bool.not_eq_false, all_eq_true,
          Bool.or_eq_true, decide_eq_true_eq, not_or, not_not] at hsc hq
        cases ho : paperOwnerSetSha256 sha256 l with
        | error => simp
        | ok =>
          simp only [ite_eq_right_iff, reduceCtorEq, imp_false, not_or, not_not, not_and,
            Bool.not_eq_true', Bool.not_eq_false, Except.ok.injEq]
          exact ⟨fun hrs => ⟨hsc, hq.1, hq.2, hrs.1, hrs.2⟩, fun ha => ⟨ha.2.2.2.1, ha.2.2.2.2⟩⟩
    rw [hh]
    constructor
    · rintro ⟨hsc, hq, hc, ho, hs⟩
      apply grouped_of_binding hsc hq hsm hc ho
      intro g hg hgs r hr
      have ha := h.allSealed.mp (hs (h.anySealed.mpr ⟨g, hg, hgs⟩))
      obtain ⟨hd, ht⟩ := h.receipt g hg hgs
      obtain ⟨hd', ht'⟩ := h.receipt r hr (ha r hr)
      exact ⟨ha r hr, hd'.trans hd.symm, ht'.trans ht.symm⟩
    · intro hgr
      refine ⟨hgr.scope group hm hb, hgr.required group hm hb,
        hgr.count group hm hb, hgr.owners group hm hb, ?_⟩
      intro han
      obtain ⟨g, hg, hgs⟩ := h.anySealed.mp han
      exact h.allSealed.mpr fun r hr => (hgr.sealed g hg hgs r hr).1

omit h

lemma Rows.marked (hs : Rows sha256 s) : ∀ r ∈ s.paper, Marked r := by
  intro r hr
  obtain ⟨hr, hp⟩ := mem_paper.mp hr
  have hc := hs.record r hr
  obtain ⟨-, hsc, -⟩ := validMutableLeaseRecord_iff.mp hc.valid
  simp only [isPaper, decide_eq_true_eq] at hp
  constructor
  · simp only [validParsedScope, hp, ne_eq, not_true_eq_false, decide_false, Bool.false_or,
      Bool.and_eq_true, decide_eq_true_eq] at hsc
    exact hsc.1.1.1
  · intro hl he
    have ht := hc.receipt
    simp only [isSealed, decide_eq_true_eq] at hl
    simp [validSealedReceipt, hl, he, prefixedSha256, ascii] at ht

lemma Rows.checkStore_ok (hs : Rows sha256 s) {s' : SessionSupervisorLeaseStore} :
    checkStore sha256 s = .ok s' ↔ s' = s ∧ Readable sha256 s := by
  constructor
  · intro h
    simp only [checkStore] at h
    cases hsc : s.paper.foldlM GroupScan.add {} with
    | error => simp [hsc] at h
    | ok scan =>
      have hsn : Scanned s.paper scan := scanned_empty.run hs.marked hsc
      simp only [hsc] at h
      cases hg : checkGroup sha256 s.paper scan with
      | some => simp [hg] at h
      | none =>
        simp only [hg] at h
        split at h
        · cases h
        · rename_i hc
          refine ⟨(Except.ok.inj h).symm, hs, (checkGroup_eq_none hsn).mp hg, ?_⟩
          simpa using hc
  · rintro ⟨rfl, hr⟩
    obtain ⟨scan, hsc⟩ : ∃ scan, s'.paper.foldlM GroupScan.add {} = .ok scan :=
      scanned_empty.run_ok hs.marked hr.group
    have hsn : Scanned s'.paper scan := scanned_empty.run hs.marked hsc
    have hc := hr.conflict
    rw [checkStore, hsc]
    dsimp only
    rw [(checkGroup_eq_none hsn).mpr hr.group]
    dsimp only
    rw [if_neg]
    simpa using hc

end SessionSupervisorLeaseStore

end Hepta
