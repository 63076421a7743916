import Hepta.Library.Guarded
import Hepta.Supervisor.Change

/-!
# The freeze of paper owners during a finalization

From the first record that is advanced until the acknowledgement of the group the owners of the paper
leases stay as they are, and the states of their finalization only rise.
-/

namespace Hepta

open Bytes LeaseCodec List

namespace SessionSupervisorLeaseStore

variable {sha256 : Bytes → Bytes} {s next s' : SessionSupervisorLeaseStore}
  {r r' found : SessionSupervisorLeaseRecord} {call : Call}
  {a : SessionSupervisorPaperFinalizationAck} {token : Bytes}

/-- The owner of a paper lease, as the owner set has it. -/
def ownerOf (r : SessionSupervisorLeaseRecord) : Bytes × ℕ × Bytes × Bytes :=
  (r.token, r.leaseGeneration, r.ownerAccount, r.ownerExecutionDomain)

def isOpen (s : SessionSupervisorLeaseStore) : Bool :=
  s.records.any fun r => r.paperFinalizationState ≠ .none

lemma isOpen_iff : s.isOpen = true ↔ ∃ r ∈ s.records, r.paperFinalizationState ≠ .none := by
  simp [isOpen]

/-- The two texts whose digests an acknowledgement compares do not collide. -/
def NoCollision (sha256 : Bytes → Bytes) (s : SessionSupervisorLeaseStore) : Prop :=
  ∀ r ∈ s.paper, ∀ canonical, receiptOwnerSet r.finalizationReceipt = some canonical →
    sha256 canonical = sha256 (canonicalOwnerSet sha256 s.paper) →
    canonical = canonicalOwnerSet sha256 s.paper

/-- A replacement by a paper record keeps the owner while a finalization is under way, and does not
turn the lease of a retired token into a paper lease. -/
def OwnersKept (sha256 : Bytes → Bytes) (s : SessionSupervisorLeaseStore) : Call → Prop
  | .replace currentToken r _ => isPaper r = true → ∀ found, s.find currentToken = some found →
    (s.isOpen = true → isPaper found = true ∧ ownerOf found = ownerOf r) ∧
      (r.token = currentToken → isPaper found = true ∨
        retiredPaperOwner sha256 s.acks r.token = false)
  | .acknowledge _ _ => NoCollision sha256 s
  | _ => True

/-- What holds of the store between its calls. -/
structure Sound (s : SessionSupervisorLeaseStore) : Prop where
  distinct : ∀ r ∈ s.records, ∀ r' ∈ s.records, r.token = r'.token → r = r'
  bound : ∀ r ∈ s.records, r.paperFinalizationState ≠ .none →
    isPaper r = true ∧ r.paperFinalizationRequired = true
  required : s.isOpen = true → ∀ r ∈ s.paper, r.paperFinalizationRequired = true
  sealed : ∀ r ∈ s.paper, r.paperFinalizationState = .auditSealed →
    ∀ r' ∈ s.paper, r'.paperFinalizationState = .auditSealed

lemma sound_empty : Sound {} := by
  constructor <;> simp [paper]

lemma Sound.of_holds (hs : Sound next) (h : Holds s next) : Sound s := by
  obtain ⟨hr, -⟩ := h
  constructor
  · rw [hr]
    exact hs.distinct
  · rw [hr]
    exact hs.bound
  · rw [isOpen, paper, hr]
    exact hs.required
  · rw [paper, hr]
    exact hs.sealed

lemma finalizing_of_required (h : r.paperFinalizationRequired = true) : finalizing r = true := by
  simp [finalizing, h]

lemma Sound.not_paper_of_idle (hs : Sound s) (ho : s.isOpen = true) (hr : r ∈ s.records)
    (hi : finalizing r = false) : isPaper r = false := by
  cases hp : isPaper r with
  | false => rfl
  | true =>
    have hq := hs.required ho r (mem_paper.mpr ⟨hr, hp⟩)
    rw [finalizing_of_required hq] at hi
    cases hi

lemma isPaper_of_required (hv : validPaperFinalizationRecord r = true)
    (hr : r.paperFinalizationRequired = true) : isPaper r = true := by
  simp only [validPaperFinalizationRecord, hr] at hv
  split at hv
  · simp only [Bool.not_true, Bool.false_or, Bool.and_eq_true] at hv
    exact hv.1.1.1.1.1.1.1.1
  split at hv
  · cases hv
  · rename_i ht
    simp only [Bool.not_true, Bool.false_or, Bool.or_eq_true, not_or] at ht
    simpa [isPaper] using ht.1.1.1.1.1.1.1.1.1

lemma required_of_bound (hv : validPaperFinalizationRecord r = true)
    (hs : r.paperFinalizationState ≠ .none) : r.paperFinalizationRequired = true := by
  cases hr : r.paperFinalizationRequired with
  | true => rfl
  | false => simp [validPaperFinalizationRecord, hs, hr] at hv

lemma valid_of_mutable (h : validMutableLeaseRecord r = true) :
    validPaperFinalizationRecord r = true := by
  simp only [validMutableLeaseRecord, Bool.and_eq_true] at h
  exact h.2

lemma Sound.not_paper_of_closed (hs : Sound s) (ho : s.isOpen = true)
    (closed : isPaper r = true → ∀ r' ∈ s.paper, finalizing r' = false) : isPaper r = false := by
  cases hp : isPaper r with
  | false => rfl
  | true =>
    obtain ⟨r', hr', ht⟩ := isOpen_iff.mp ho
    obtain ⟨hp', hq⟩ := hs.bound r' hr' ht
    have hi := closed hp r' (mem_paper.mpr ⟨hr', hp'⟩)
    rw [finalizing_of_required hq] at hi
    cases hi

lemma Sound.paper_remove (hs : Sound s) (ho : s.isOpen = true) (hf : s.find token = some found)
    (hi : finalizing found = false) : (s.eraseRecord token).paper = s.paper := by
  obtain ⟨hm, ht⟩ := find_some hf
  apply paper_eraseRecord_other
  intro x hx heq
  rw [hs.distinct x hx found hm (heq.trans ht.symm)]
  exact hs.not_paper_of_idle ho hm hi

lemma Sound.paper_replace (hs : Sound s) (ho : s.isOpen = true)
    (hfn : s.find token = some found) (hv : validMutableLeaseRecord r = true)
    (hk : found.paperFinalizationRequired = true → r.paperFinalizationRequired = true)
    (hf : token ≠ r.token → s.find r.token = none) (hp : isPaper r = false) :
    ((s.eraseRecord token).putRecord r).paper = s.paper := by
  obtain ⟨hm, ht⟩ := find_some hfn
  have hh : isPaper found = false := by
    cases hp' : isPaper found with
    | false => rfl
    | true =>
      have hr := hs.required ho found (mem_paper.mpr ⟨hm, hp'⟩)
      rw [isPaper_of_required (valid_of_mutable hv) (hk hr)] at hp
      cases hp
  rw [paper_putRecord_other hp, paper_eraseRecord_other]
  · intro x hx heq
    rw [hs.distinct x hx found hm (heq.trans ht.symm)]
    exact hh
  · intro x hx heq
    obtain ⟨hx, he⟩ := mem_eraseRecord.mp hx
    have hmv : token ≠ r.token := fun hsm => he (heq.trans hsm.symm)
    exact absurd heq (find_none (hf hmv) x hx)

lemma eq_of_same (h : sameLeaseFields r r' = true) :
    r' = { r with
      paperFinalizationState := r'.paperFinalizationState
      recoveryId := r'.recoveryId
      finalizationId := r'.finalizationId
      expectedOwnerSetSha256 := r'.expectedOwnerSetSha256
      expectedOwnerCount := r'.expectedOwnerCount
      ownerTokenSha256 := r'.ownerTokenSha256
      finalizationReceiptSha256 := r'.finalizationReceiptSha256
      finalizationReceipt := r'.finalizationReceipt } := by
  cases r
  cases r'
  simp only [sameLeaseFields, Bool.and_eq_true, decide_eq_true_eq] at h
  simp only [h]

lemma isPaper_of_same (h : sameLeaseFields r r' = true) : isPaper r' = isPaper r := by
  rw [eq_of_same h]
  rfl

lemma ownerOf_of_same (h : sameLeaseFields r r' = true) : ownerOf r' = ownerOf r := by
  rw [eq_of_same h]
  rfl

/-! ### Sealing -/

variable (q : SealRequest)

def sealedRecord (r : SessionSupervisorLeaseRecord) : SessionSupervisorLeaseRecord :=
  if isPaper r then
    { r with
      paperFinalizationState := .auditSealed
      finalizationReceiptSha256 := q.receiptSha256
      finalizationReceipt := q.receipt }
  else r

lemma sealRecords_eq {q : SealRequest} {l : List SessionSupervisorLeaseRecord}
    (h : ∀ r ∈ l, isPaper r = true → r.paperFinalizationState = .fenceComplete) :
    sealRecords q l = (true, l.map (sealedRecord q)) := by
  induction l with
  | nil => rfl
  | cons r l ih =>
    have hs := ih fun r' hr' => h r' (mem_cons_of_mem _ hr')
    cases hp : isPaper r with
    | false => simp [sealRecords, sealedRecord, hp, hs]
    | true => simp [sealRecords, sealedRecord, hp, hs, h r (by simp) hp]

lemma Sound.sealRecords_eq (hs : Sound s) (h : Sealable s) (q : SealRequest) :
    sealRecords q s.records = (true, s.records.map (sealedRecord q)) := by
  apply SessionSupervisorLeaseStore.sealRecords_eq
  intro r hr hp
  have hm := mem_paper.mpr ⟨hr, hp⟩
  rcases h.states r hm with hc | hl
  · exact hc
  · obtain ⟨r', hr', hu⟩ := h.unsealed
    exact absurd (hs.sealed r hm hl r' hr') hu

@[simp] lemma isPaper_sealedRecord : isPaper (sealedRecord q r) = isPaper r := by
  simp only [sealedRecord]
  split <;> rfl

@[simp] lemma ownerOf_sealedRecord : ownerOf (sealedRecord q r) = ownerOf r := by
  simp only [sealedRecord]
  split <;> rfl

@[simp] lemma token_sealedRecord : (sealedRecord q r).token = r.token := by
  simp only [sealedRecord]
  split <;> rfl

lemma state_sealedRecord (h : isPaper r = true) :
    (sealedRecord q r).paperFinalizationState = .auditSealed := by
  simp [sealedRecord, h]

lemma required_sealedRecord :
    (sealedRecord q r).paperFinalizationRequired = r.paperFinalizationRequired := by
  simp only [sealedRecord]
  split <;> rfl

lemma Sound.paper_seal (hs : Sound s) (h : Sealable s) (q : SealRequest) :
    ({ s with records := (sealRecords q s.records).2 } : SessionSupervisorLeaseStore).paper =
      s.paper.map (sealedRecord q) := by
  simp only [hs.sealRecords_eq h q, paper, filter_map]
  congr 1
  exact filter_congr fun x _ => isPaper_sealedRecord q

/-! ### One call -/

structure Frozen (s s' : SessionSupervisorLeaseStore) : Prop where
  kept : ∀ r ∈ s.paper, ∃ r' ∈ s'.paper, ownerOf r' = ownerOf r ∧
    stateNumber r.paperFinalizationState ≤ stateNumber r'.paperFinalizationState
  known : ∀ r' ∈ s'.paper, ∃ r ∈ s.paper, ownerOf r' = ownerOf r ∧
    stateNumber r.paperFinalizationState ≤ stateNumber r'.paperFinalizationState

lemma Frozen.refl (s : SessionSupervisorLeaseStore) : Frozen s s :=
  ⟨fun r hr => ⟨r, hr, rfl, le_rfl⟩, fun r hr => ⟨r, hr, rfl, le_rfl⟩⟩

lemma Frozen.trans (first : Frozen s next) (second : Frozen next s') : Frozen s s' := by
  constructor
  · intro r hr
    obtain ⟨r₁, hr₁, howner₁, hs₁⟩ := first.kept r hr
    obtain ⟨r₂, hr₂, howner₂, hs₂⟩ := second.kept r₁ hr₁
    exact ⟨r₂, hr₂, howner₂.trans howner₁, hs₁.trans hs₂⟩
  · intro r₂ hr₂
    obtain ⟨r₁, hr₁, howner₁, hs₁⟩ := second.known r₂ hr₂
    obtain ⟨r, hr, howner, hs⟩ := first.known r₁ hr₁
    exact ⟨r, hr, howner₁.trans howner, hs.trans hs₁⟩

lemma Frozen.of_paper (h : s'.paper = s.paper) : Frozen s s' :=
  ⟨fun r hr => ⟨r, h ▸ hr, rfl, le_rfl⟩, fun r hr => ⟨r, h ▸ hr, rfl, le_rfl⟩⟩

lemma Frozen.of_put (hs : Sound s) (hf : s.find r.token = some found)
    (hp : isPaper r = isPaper found) (howner : ownerOf r = ownerOf found)
    (hst : stateNumber found.paperFinalizationState ≤ stateNumber r.paperFinalizationState) :
    Frozen s (s.putRecord r) := by
  obtain ⟨hm, ht⟩ := find_some hf
  constructor
  · intro r' hr'
    obtain ⟨hr', hp'⟩ := mem_paper.mp hr'
    by_cases heq : r'.token = r.token
    · obtain rfl := hs.distinct r' hr' found hm (heq.trans ht.symm)
      exact ⟨r, mem_paper.mpr ⟨mem_putRecord.mpr (.inl rfl), hp.trans hp'⟩, howner, hst⟩
    · exact ⟨r', mem_paper.mpr ⟨mem_putRecord.mpr (.inr ⟨hr', heq⟩), hp'⟩, rfl, le_rfl⟩
  · intro r' hr'
    have hp' := (mem_paper.mp hr').2
    rcases mem_paper_putRecord hr' with rfl | ⟨hr', -⟩
    · exact ⟨found, mem_paper.mpr ⟨hm, hp.symm.trans hp'⟩, howner, hst⟩
    · exact ⟨r', hr', rfl, le_rfl⟩

lemma putRecord_eraseRecord (s : SessionSupervisorLeaseStore) (r : SessionSupervisorLeaseRecord) :
    (s.eraseRecord r.token).putRecord r = s.putRecord r := by
  simp [eraseRecord, putRecord, filter_filter]

lemma acks_putAck {b : SessionSupervisorPaperFinalizationAck} : b ∈ (s.putAck a).acks ↔ b = a ∨
    (b ∈ s.acks ∧ b.finalizationId ≠ a.finalizationId) := by
  simp [putAck, mem_orderedInsert]

lemma Acknowledged.acks_ne
    (h : Acknowledged sha256 s a) : (s.purgePaper.putAck a).acks ≠ s.acks := by
  intro heq
  have hm : a ∈ s.acks := heq ▸ acks_putAck.mpr (.inl rfl)
  simpa using List.find?_eq_none.mp h.unknown a hm

lemma Change.frozen (hs : Sound s) (hk : OwnersKept sha256 s call) (ho : s.isOpen = true)
    (hc : Change sha256 s call next) (ha : next.acks = s.acks) : Frozen s next := by
  cases hc with
  | same => exact Frozen.refl s
  | put r outcome valid idle unretired free closed =>
    apply Frozen.of_paper
    apply paper_putRecord_other (hs.not_paper_of_closed ho closed)
    exact fun x hx heq => absurd heq (find_none free x hx)
  | remove token found outcome hfn idle =>
    exact Frozen.of_paper (hs.paper_remove ho hfn idle)
  | replace currentToken r found outcome valid hfn unretired fe state kept free =>
    obtain ⟨-, ht⟩ := find_some hfn
    cases hp : isPaper r with
    | true =>
      obtain ⟨hp', hw⟩ := (hk hp found hfn).1 ho
      have hm : r.token = currentToken := by
        rw [← ht]
        exact (congrArg Prod.fst hw).symm
      subst hm
      rw [putRecord_eraseRecord]
      apply Frozen.of_put hs hfn (hp.trans hp'.symm) hw.symm
      rw [fe, state]
    | false =>
      exact Frozen.of_paper (hs.paper_replace ho hfn valid kept free hp)
  | advance est r pv outcome hfn same valid moved =>
    apply Frozen.of_put hs hfn (isPaper_of_same same) (ownerOf_of_same same)
    rcases moved with ⟨hf, hto⟩ | ⟨hf, hto⟩
    · rw [hf, hto]
      decide
    · rw [hf, hto]
      decide
  | sealGroup q outcome sl =>
    have hp : ∀ r', r' ∈ ({ s with records := (sealRecords q s.records).2 } :
        SessionSupervisorLeaseStore).paper ↔ ∃ r ∈ s.paper, sealedRecord q r = r' := by
      intro r'
      rw [hs.paper_seal sl q, mem_map]
    have hrs : ∀ r ∈ s.paper, stateNumber r.paperFinalizationState ≤
        stateNumber (sealedRecord q r).paperFinalizationState := by
      intro r hr
      rw [state_sealedRecord q (mem_paper.mp hr).2]
      rcases sl.states r hr with hst | hst
      · rw [hst]
        decide
      · rw [hst]
    constructor
    · intro r hr
      exact ⟨_, (hp _).mpr ⟨r, hr, rfl⟩, ownerOf_sealedRecord q, hrs r hr⟩
    · intro r' hr'
      obtain ⟨r, hr, rfl⟩ := (hp r').mp hr'
      exact ⟨r, hr, ownerOf_sealedRecord q, hrs r hr⟩
  | acknowledge q receipt outcome ack => exact absurd ha ack.acks_ne

lemma isOpen_of_mem (hr : r ∈ s.records) (hs : r.paperFinalizationState ≠ .none) :
    s.isOpen = true := isOpen_iff.mpr ⟨r, hr, hs⟩

lemma Sound.distinct_putRecord (hs : Sound s) (r : SessionSupervisorLeaseRecord) :
    ∀ a ∈ (s.putRecord r).records, ∀ b ∈ (s.putRecord r).records, a.token = b.token → a = b := by
  intro a ha b hb heq
  rcases mem_putRecord.mp ha with rfl | ⟨ha, han⟩ <;> rcases mem_putRecord.mp hb with rfl | ⟨hb, hbn⟩
  · rfl
  · exact absurd heq.symm hbn
  · exact absurd heq han
  · exact hs.distinct a ha b hb heq

lemma Sound.of_subset (hs : Sound s) (hb : ∀ r ∈ next.records, r ∈ s.records) : Sound next := by
  have ho : next.isOpen = true → s.isOpen = true := by
    intro ho
    obtain ⟨r, hr, ht⟩ := isOpen_iff.mp ho
    exact isOpen_of_mem (hb r hr) ht
  have hp : ∀ r ∈ next.paper, r ∈ s.paper := by
    intro r hr
    obtain ⟨hr, hp⟩ := mem_paper.mp hr
    exact mem_paper.mpr ⟨hb r hr, hp⟩
  constructor
  · exact fun r hr r' hr' => hs.distinct r (hb r hr) r' (hb r' hr')
  · exact fun r hr => hs.bound r (hb r hr)
  · exact fun h r hr => hs.required (ho h) r (hp r hr)
  · exact fun r hr hl r' hr' => hs.sealed r (hp r hr) hl r' (hp r' hr')

lemma Sound.putRecord (hs : Sound s) (ht : r.paperFinalizationState = .none)
    (hq : s.isOpen = true → isPaper r = true → r.paperFinalizationRequired = true)
    (hl : ∀ r' ∈ s.paper, r'.paperFinalizationState = .auditSealed → r'.token ≠ r.token →
      isPaper r = false) : Sound (s.putRecord r) := by
  have hh : ∀ r' ∈ (s.putRecord r).records, r'.paperFinalizationState ≠ .none →
      r' ∈ s.records ∧ r'.token ≠ r.token := by
    intro r' hr' ht'
    rcases mem_putRecord.mp hr' with rfl | hr'
    · exact absurd ht ht'
    · exact hr'
  have ho : (s.putRecord r).isOpen = true → s.isOpen = true := by
    intro ho
    obtain ⟨r', hr', ht'⟩ := isOpen_iff.mp ho
    exact isOpen_of_mem (hh r' hr' ht').1 ht'
  constructor
  · exact hs.distinct_putRecord r
  · exact fun r' hr' ht' => hs.bound r' (hh r' hr' ht').1 ht'
  · intro h r' hr'
    have hp' := (mem_paper.mp hr').2
    rcases mem_paper_putRecord hr' with rfl | ⟨hr', -⟩
    · exact hq (ho h) hp'
    · exact hs.required (ho h) r' hr'
  · intro r₀ hr₀ hl₀ r' hr'
    obtain ⟨hr₀, hp₀⟩ := mem_paper.mp hr₀
    obtain ⟨hm₀, he₀⟩ := hh r₀ hr₀ (by rw [hl₀]; decide)
    have hi₀ := mem_paper.mpr ⟨hm₀, hp₀⟩
    have hp' := (mem_paper.mp hr').2
    rcases mem_paper_putRecord hr' with rfl | ⟨hr', -⟩
    · rw [hl r₀ hi₀ hl₀ he₀] at hp'
      cases hp'
    · exact hs.sealed r₀ hi₀ hl₀ r' hr'

lemma Change.sound (hs : Sound s) (hk : OwnersKept sha256 s call)
    (hh : Change sha256 s call next) : Sound next := by
  cases hh with
  | same => exact hs
  | put r outcome valid idle unretired free closed =>
    simp only [finalizing, Bool.or_eq_false_iff] at idle
    have hc := fun ho => hs.not_paper_of_closed ho closed
    apply hs.putRecord (by simpa using idle.2)
    · intro ho hp
      rw [hc ho] at hp
      cases hp
    · intro r' hr' hl _
      exact hc (isOpen_of_mem (mem_paper.mp hr').1 (by rw [hl]; decide))
  | remove => exact hs.of_subset fun r hr => (mem_eraseRecord.mp hr).1
  | replace ct r found outcome valid hd unretired fst state kept =>
    obtain ⟨hm, -⟩ := find_some hd
    have he : Sound (s.eraseRecord ct) :=
      hs.of_subset fun r hr => (mem_eraseRecord.mp hr).1
    have ho : (s.eraseRecord ct).isOpen = true → s.isOpen = true := by
      intro ho
      obtain ⟨r', hr', ht⟩ := isOpen_iff.mp ho
      exact isOpen_of_mem (mem_eraseRecord.mp hr').1 ht
    apply he.putRecord state
    · intro h hp
      obtain ⟨hp', -⟩ := (hk hp found hd).1 (ho h)
      exact kept (hs.required (ho h) found (mem_paper.mpr ⟨hm, hp'⟩))
    · intro r' hr' hl _
      cases hp : isPaper r with
      | false => rfl
      | true =>
        -- the paper record that is replaced would be sealed like the others
        obtain ⟨hr', hp'⟩ := mem_paper.mp hr'
        have hi := (mem_eraseRecord.mp hr').1
        have ho' := isOpen_of_mem hi (by rw [hl]; decide)
        obtain ⟨hfo, -⟩ := (hk hp found hd).1 ho'
        have hfn := hs.sealed r' (mem_paper.mpr ⟨hi, hp'⟩) hl found (mem_paper.mpr ⟨hm, hfo⟩)
        rw [fst] at hfn
        cases hfn
  | advance est r pv outcome hd same valid moved required =>
    obtain ⟨hm, -⟩ := find_some hd
    have ht : r.paperFinalizationState ≠ .none := by
      rcases moved with ⟨-, hto⟩ | ⟨-, hto⟩ <;> rw [hto] <;> decide
    have hu : r.paperFinalizationState ≠ .auditSealed := by
      rcases moved with ⟨-, hto⟩ | ⟨-, hto⟩ <;> rw [hto] <;> decide
    have hq := required_of_bound valid ht
    have hp := isPaper_of_required valid hq
    constructor
    · exact hs.distinct_putRecord r
    · intro r' hr' ht'
      rcases mem_putRecord.mp hr' with rfl | ⟨hr', -⟩
      · exact ⟨hp, hq⟩
      · exact hs.bound r' hr' ht'
    · intro _ r' hr'
      rcases mem_paper_putRecord hr' with rfl | ⟨hr', -⟩
      · exact hq
      · exact required r' hr'
    · intro r₀ hr₀ hl₀ r' hr'
      -- a sealed record would mean that the advanced one was sealed before
      obtain ⟨hr₀, hp₀⟩ := mem_paper.mp hr₀
      rcases mem_putRecord.mp hr₀ with rfl | ⟨hr₀, -⟩
      · exact absurd hl₀ hu
      · have hpr := hs.sealed r₀ (mem_paper.mpr ⟨hr₀, hp₀⟩) hl₀ pv
          (mem_paper.mpr ⟨hm, (isPaper_of_same same).symm.trans hp⟩)
        rcases moved with ⟨hf, -⟩ | ⟨hf, -⟩ <;> (rw [hf] at hpr; cases hpr)
  | sealGroup q outcome sl =>
    have hrc := hs.sealRecords_eq sl q
    have hf : ∀ r' ∈ (sealRecords q s.records).2, ∃ r ∈ s.records, sealedRecord q r = r' := by
      intro r' hr'
      rw [hrc] at hr'
      exact mem_map.mp hr'
    have hbd : ∀ r ∈ s.paper, r.paperFinalizationRequired = true := by
      intro r hr
      have ht : r.paperFinalizationState ≠ .none := by
        rcases sl.states r hr with ht | ht <;> rw [ht] <;> decide
      exact (hs.bound r (mem_paper.mp hr).1 ht).2
    constructor
    · intro a ha b hb heq
      obtain ⟨a₀, ha₀, rfl⟩ := hf a ha
      obtain ⟨b₀, hb₀, rfl⟩ := hf b hb
      rw [hs.distinct a₀ ha₀ b₀ hb₀ (by simpa using heq)]
    · intro r' hr' ht
      obtain ⟨r, hr, rfl⟩ := hf r' hr'
      cases hp : isPaper r with
      | true =>
        rw [isPaper_sealedRecord, required_sealedRecord]
        exact ⟨hp, hbd r (mem_paper.mpr ⟨hr, hp⟩)⟩
      | false =>
        simp only [sealedRecord, hp, Bool.false_eq_true, ↓reduceIte] at ht ⊢
        rw [(hs.bound r hr ht).1] at hp
        cases hp
    · rw [hs.paper_seal sl q]
      simpa [required_sealedRecord] using fun _ => hbd
    · rw [hs.paper_seal sl q]
      intro _ _ _ r' hr'
      obtain ⟨r, hr, rfl⟩ := mem_map.mp hr'
      exact state_sealedRecord q (mem_paper.mp hr).2
  | acknowledge => exact hs.of_subset fun r hr => (mem_filter.mp hr).1

/-- A call seals or purges the group as a whole, and a state moves by one at most. -/
structure Whole (s s' : SessionSupervisorLeaseStore) : Prop where
  sealed : (∀ r' ∈ s'.paper, r'.paperFinalizationState = .auditSealed) ∨
    ∀ r' ∈ s'.paper, r'.paperFinalizationState = .auditSealed → r' ∈ s.paper
  purged : s'.acks = s.acks ∨ s'.paper = []
  once : ∀ r ∈ s.paper, ∀ r' ∈ s'.paper, r'.token = r.token →
    stateNumber r'.paperFinalizationState ≤ stateNumber r.paperFinalizationState + 1

lemma Whole.of_subset (hs : Sound s) (hb : ∀ r ∈ next.paper, r ∈ s.paper)
    (hp : next.acks = s.acks ∨ next.paper = []) : Whole s next := by
  refine ⟨.inr fun r' hr' _ => hb r' hr', hp, ?_⟩
  intro r hr r' hr' ht
  rw [hs.distinct r' (mem_paper.mp (hb r' hr')).1 r (mem_paper.mp hr).1 ht]
  exact Nat.le_succ _

lemma Whole.putRecord (hs : Sound s) (hu : r.paperFinalizationState ≠ .auditSealed)
    (ho : ∀ r' ∈ s.records, r'.token = r.token →
      stateNumber r.paperFinalizationState ≤ stateNumber r'.paperFinalizationState + 1)
    (hb : ∀ r' ∈ next.records, r' = r ∨ r' ∈ s.records) (ha : next.acks = s.acks) :
    Whole s next := by
  refine ⟨.inr ?_, .inl ha, ?_⟩
  · intro r' hr' hl
    obtain ⟨hr', hp'⟩ := mem_paper.mp hr'
    rcases hb r' hr' with rfl | hr'
    · exact absurd hl hu
    · exact mem_paper.mpr ⟨hr', hp'⟩
  · intro r₀ hr₀ r' hr' ht
    have hi₀ := (mem_paper.mp hr₀).1
    rcases hb r' (mem_paper.mp hr').1 with rfl | hr'
    · exact ho r₀ hi₀ ht.symm
    · rw [hs.distinct r' hr' r₀ hi₀ ht]
      exact Nat.le_succ _

lemma Change.whole (hs : Sound s) (hc : Change sha256 s call next) : Whole s next := by
  cases hc with
  | same => exact Whole.of_subset hs (fun r hr => hr) (.inl rfl)
  | put r outcome valid idle =>
    simp only [finalizing, Bool.or_eq_false_iff] at idle
    have hst : r.paperFinalizationState = .none := by simpa using idle.2
    apply Whole.putRecord hs (r := r)
    · rw [hst]
      decide
    · intro r' _ _
      rw [hst]
      exact Nat.zero_le _
    · exact fun r' hr' => (mem_putRecord.mp hr').imp_right And.left
    · rfl
  | remove =>
    apply Whole.of_subset hs
    · exact fun r hr => mem_paper_eraseRecord hr
    · exact .inl rfl
  | replace ct r found outcome valid hfn unretired fst state =>
    apply Whole.putRecord hs (r := r)
    · rw [state]
      decide
    · intro r' _ _
      rw [state]
      exact Nat.zero_le _
    · intro r' hr'
      exact (mem_putRecord.mp hr').imp_right fun h => (mem_eraseRecord.mp h.1).1
    · rfl
  | advance est r pv outcome hfn same valid moved =>
    obtain ⟨hm, ht⟩ := find_some hfn
    apply Whole.putRecord hs (r := r)
    · rcases moved with ⟨-, ho⟩ | ⟨-, ho⟩ <;> rw [ho] <;> decide
    · intro r' hr' heq
      rw [hs.distinct r' hr' pv hm (heq.trans ht.symm)]
      rcases moved with ⟨hf, ho⟩ | ⟨hf, ho⟩ <;> rw [hf, ho] <;> decide
    · exact fun r' hr' => (mem_putRecord.mp hr').imp_right And.left
    · rfl
  | sealGroup q outcome sl =>
    refine ⟨.inl ?_, .inl rfl, ?_⟩
    · rw [hs.paper_seal sl q]
      intro r' hr'
      obtain ⟨r, hr, rfl⟩ := mem_map.mp hr'
      exact state_sealedRecord q (mem_paper.mp hr).2
    · rw [hs.paper_seal sl q]
      intro r₀ hr₀ r' hr' ht
      obtain ⟨r, hr, rfl⟩ := mem_map.mp hr'
      obtain rfl := hs.distinct r (mem_paper.mp hr).1 r₀ (mem_paper.mp hr₀).1 (by simpa using ht)
      rw [state_sealedRecord q (mem_paper.mp hr₀).2]
      rcases sl.states r hr₀ with hst | hst <;> rw [hst] <;> decide
  | acknowledge => exact Whole.of_subset hs (by simp) (.inr (paper_purge _ _))

end SessionSupervisorLeaseStore

end Hepta
