import Hepta.Library.SortedByKey
import Hepta.Supervisor.LeaseStore

/-!
# What a call of the lease store can change
-/

namespace Hepta

open Bytes LeaseCodec List

namespace SessionSupervisorLeaseStore

variable {sha256 : Bytes → Bytes} {s next : SessionSupervisorLeaseStore}
  {r found first : SessionSupervisorLeaseRecord} {token : Bytes} {call : Call}

/-! ### Records -/

lemma find_some (h : s.find token = some r) : r ∈ s.records ∧ r.token = token :=
  ⟨mem_of_find?_eq_some h, by simpa using List.find?_some h⟩

lemma find_none (h : s.find token = none) : ∀ r ∈ s.records, r.token ≠ token := by
  intro r hr
  simpa using List.find?_eq_none.mp h r hr

lemma mem_eraseRecord : r ∈ (s.eraseRecord token).records ↔ r ∈ s.records ∧ r.token ≠ token := by
  simp [eraseRecord]

lemma mem_putRecord : r ∈ (s.putRecord found).records ↔
    r = found ∨ (r ∈ s.records ∧ r.token ≠ found.token) := by
  simp [putRecord, mem_orderedInsert]

lemma mem_paper : r ∈ s.paper ↔ r ∈ s.records ∧ isPaper r = true := mem_filter

lemma mem_paper_eraseRecord (h : r ∈ (s.eraseRecord token).paper) : r ∈ s.paper :=
  mem_paper.mpr ⟨(mem_eraseRecord.mp (mem_paper.mp h).1).1, (mem_paper.mp h).2⟩

lemma mem_paper_putRecord (h : r ∈ (s.putRecord found).paper) :
    r = found ∨ (r ∈ s.paper ∧ r.token ≠ found.token) := by
  obtain ⟨hr, hp⟩ := mem_paper.mp h
  rcases mem_putRecord.mp hr with rfl | ⟨hr, hne⟩
  · exact .inl rfl
  · exact .inr ⟨mem_paper.mpr ⟨hr, hp⟩, hne⟩

lemma putRecord_records (s : SessionSupervisorLeaseStore) (r : SessionSupervisorLeaseRecord) :
    (s.putRecord r).records = SortedByKey.insert SessionSupervisorLeaseRecord.token r s.records := rfl

lemma paper_putRecord_other (hp : isPaper r = false)
    (h : ∀ x ∈ s.records, x.token = r.token → isPaper x = false) :
    (s.putRecord r).paper = s.paper := by
  rw [paper, putRecord_records, SortedByKey.filter_insert hp h, paper]

lemma paper_eraseRecord_other (h : ∀ x ∈ s.records, x.token = token → isPaper x = false) :
    (s.eraseRecord token).paper = s.paper := by
  rw [paper, eraseRecord, filter_filter, paper]
  apply filter_congr
  intro x hx
  by_cases ht : x.token = token
  · simp [ht, h x hx ht]
  · simp [ht]

@[simp] lemma paper_purge (s : SessionSupervisorLeaseStore)
    (a : SessionSupervisorPaperFinalizationAck) : (s.purgePaper.putAck a).paper = [] := by
  simp [paper, putAck, purgePaper, filter_filter]

/-! ### Calls -/

/-- Every paper record is complete or sealed, and not all of them are sealed. -/
structure Sealable (s : SessionSupervisorLeaseStore) : Prop where
  states : ∀ r ∈ s.paper,
    r.paperFinalizationState = .fenceComplete ∨ r.paperFinalizationState = .auditSealed
  unsealed : ∃ r ∈ s.paper, r.paperFinalizationState ≠ .auditSealed

structure Acknowledged (sha256 : Bytes → Bytes) (s : SessionSupervisorLeaseStore)
    (a : SessionSupervisorPaperFinalizationAck) : Prop where
  unknown : s.ackOf a.finalizationId = none
  receipt : ∃ r ∈ s.paper, r.finalizationReceipt = a.receipt
  ownerSet : a.expectedOwnerSetSha256 =
    prefixedSha256 sha256 (canonicalOwnerSet sha256 s.paper)
  valid : ∃ b : ReceiptBinding, b.expectedOwnerSetSha256 = a.expectedOwnerSetSha256 ∧
    validPaperFinalizationReceipt sha256 a.receipt b = true

/-- What an advance has checked about the group. -/
structure AdvanceChecked (sha256 : Bytes → Bytes) (s : SessionSupervisorLeaseStore)
    (previous r : SessionSupervisorLeaseRecord) : Prop where
  binding : previous.paperFinalizationState = .fencePending →
    sameFinalizationBinding previous r = true
  group : ∀ r' ∈ s.paper, advanceMismatch r r' = none
  count : s.paper.length = r.expectedOwnerCount
  ownerSet : paperOwnerSetSha256 sha256 s.paper = .ok r.expectedOwnerSetSha256
  unknown : s.ackOf r.finalizationId = none
  ownerToken : r.ownerTokenSha256 = prefixedSha256 sha256 (r.token ++ [newline])

/-- What a seal has checked about the group and its receipt. -/
structure SealChecked (sha256 : Bytes → Bytes) (s : SessionSupervisorLeaseStore)
    (q : SealRequest) : Prop where
  request : validSealRequest sha256 q = true
  group : ∀ r ∈ s.paper, sealMismatch (s.paper.headD {}) q r = none
  count : s.paper.length = q.expectedOwnerCount
  ownerSet : paperOwnerSetSha256 sha256 s.paper = .ok q.expectedOwnerSetSha256
  receipt : validPaperFinalizationReceipt sha256 q.receipt
    { recoveryId := q.recoveryId
      finalizationId := q.finalizationId
      expectedOwnerSetSha256 := q.expectedOwnerSetSha256
      expectedOwnerCount := q.expectedOwnerCount
      ownerAccount := (s.paper.headD {}).ownerAccount
      ownerDomain := (s.paper.headD {}).ownerExecutionDomain } = true

/-- What an acknowledgement has checked about the group and the receipts. -/
structure AckChecked (sha256 : Bytes → Bytes) (s : SessionSupervisorLeaseStore)
    (q : SessionSupervisorTerminalAckRequest) (receipt : Bytes) : Prop where
  sealed : ∃ r ∈ s.paper, r.finalizationReceipt = receipt ∧
    ∃ before, ackMismatch (s.paper.headD {}) q before r = none
  owner : ∃ r ∈ s.paper, isAcknowledgingOwner q r = true
  accepted : ackRefusal sha256 (s.paper.headD {}) (createdAck q receipt) = none

/-- The records and acknowledgements that a call leaves in memory. -/
inductive Change (sha256 : Bytes → Bytes) (s : SessionSupervisorLeaseStore) :
    Call → SessionSupervisorLeaseStore → Prop
  | same (call : Call) : Change sha256 s call s
  | put (r : SessionSupervisorLeaseRecord) (outcome : PersistOutcome)
      (valid : validMutableLeaseRecord r = true) (idle : finalizing r = false)
      (unretired : isPaper r = true → retiredPaperOwner sha256 s.acks r.token = false)
      (free : s.find r.token = none)
      (closed : isPaper r = true → ∀ r' ∈ s.paper, finalizing r' = false)
      (watchFree : s.watchOwnerExists r none = false) :
      Change sha256 s (.put r outcome) (s.putRecord r)
  | remove (token : Bytes) (found : SessionSupervisorLeaseRecord) (outcome : PersistOutcome)
      (hfound : s.find token = some found) (idle : finalizing found = false) :
      Change sha256 s (.remove token outcome) (s.eraseRecord token)
  | replace (currentToken : Bytes) (r found : SessionSupervisorLeaseRecord)
      (outcome : PersistOutcome) (valid : validMutableLeaseRecord r = true)
      (hfound : s.find currentToken = some found)
      (unretired : isPaper r = true → r.token ≠ currentToken →
        retiredPaperOwner sha256 s.acks r.token = false)
      (foundState : found.paperFinalizationState = .none) (state : r.paperFinalizationState = .none)
      (kept : found.paperFinalizationRequired = true → r.paperFinalizationRequired = true)
      (free : currentToken ≠ r.token → s.find r.token = none)
      (watchFree : s.watchOwnerExists r (some currentToken) = false) :
      Change sha256 s (.replace currentToken r outcome) ((s.eraseRecord currentToken).putRecord r)
  | advance (expectedState : SessionSupervisorPaperFinalizationState)
      (r previous : SessionSupervisorLeaseRecord) (outcome : PersistOutcome)
      (hfound : s.find r.token = some previous) (same : sameLeaseFields previous r = true)
      (valid : validPaperFinalizationRecord r = true)
      (moved : (previous.paperFinalizationState = .none ∧ r.paperFinalizationState = .fencePending) ∨
        (previous.paperFinalizationState = .fencePending ∧
          r.paperFinalizationState = .fenceComplete))
      (required : ∀ r' ∈ s.paper, r'.paperFinalizationRequired = true)
      (checked : AdvanceChecked sha256 s previous r) :
      Change sha256 s (.advance r.token expectedState r outcome) (s.putRecord r)
  | sealGroup (q : SealRequest) (outcome : PersistOutcome) (sealable : Sealable s)
      (checked : SealChecked sha256 s q) :
      Change sha256 s (.sealGroup q outcome) { s with records := (sealRecords q s.records).2 }
  | acknowledge (q : SessionSupervisorTerminalAckRequest) (receipt : Bytes)
      (outcome : PersistOutcome) (acknowledged : Acknowledged sha256 s (createdAck q receipt))
      (checked : AckChecked sha256 s q receipt) :
      Change sha256 s (.acknowledge q outcome) (s.purgePaper.putAck (createdAck q receipt))

/-- The store has the records and the acknowledgements of the other. -/
def Holds (s next : SessionSupervisorLeaseStore) : Prop :=
  s.records = next.records ∧ s.acks = next.acks

lemma commit_cases (intent : PersistIntent) (outcome : PersistOutcome) :
    (s.commit next intent outcome).2 = s ∨ Holds (s.commit next intent outcome).2 next := by
  simp only [commit]
  split
  · exact .inr ⟨rfl, rfl⟩
  · exact .inl rfl
  · exact .inr ⟨rfl, rfl⟩

lemma change_of_commit (intent : PersistIntent) (outcome : PersistOutcome)
    (hnext : Change sha256 s call next) :
    ∃ next', Change sha256 s call next' ∧ Holds (s.commit next intent outcome).2 next' := by
  rcases @commit_cases s next intent outcome with hs | hk
  · exact ⟨s, .same call, by rw [hs]; exact ⟨rfl, rfl⟩⟩
  · exact ⟨next, hnext, hk⟩

lemma change_same (call : Call) : ∃ next, Change sha256 s call next ∧ Holds s next :=
  ⟨s, .same call, rfl, rfl⟩

lemma change_refuse {p : Prop} [Decidable p] {rs : String}
    {rest : Option String × SessionSupervisorLeaseStore}
    (h : ¬p → ∃ next, Change sha256 s call next ∧ Holds rest.2 next) :
    ∃ next, Change sha256 s call next ∧ Holds (if p then (some rs, s) else rest).2 next := by
  split
  · exact change_same _
  · rename_i ht
    exact h ht

lemma change_put (r : SessionSupervisorLeaseRecord) (outcome : PersistOutcome) :
    ∃ next, Change sha256 s (.put r outcome) next ∧ Holds (s.put sha256 r outcome).2 next := by
  apply change_refuse
  intro hv
  apply change_refuse
  intro _
  apply change_refuse
  intro ht
  apply change_refuse
  intro hf
  apply change_refuse
  intro hc
  apply change_refuse
  intro hw
  simp only [Bool.or_eq_true, Bool.not_eq_eq_eq_not, Bool.not_true, not_or, Bool.not_eq_false,
    Bool.not_eq_true] at hv
  apply change_of_commit
  apply Change.put r outcome hv.1 hv.2
  · intro hp
    simpa [hp] using ht
  · simpa using hf
  · intro hp r' hr'
    obtain ⟨hm, hp'⟩ := mem_paper.mp hr'
    simp only [hp, Bool.true_and, any_eq_true, not_exists, not_and, Bool.and_eq_true,
      Bool.not_eq_true] at hc
    exact hc r' hm hp'
  · simpa using hw

lemma change_remove (token : Bytes) (outcome : PersistOutcome) :
    ∃ next, Change sha256 s (.remove token outcome) next ∧
      Holds (s.remove token outcome).2 next := by
  apply change_refuse
  intro _
  split
  · exact change_same _
  rename_i found hf
  apply change_refuse
  intro hi
  exact change_of_commit _ _ (.remove token found outcome hf (by simpa using hi))

lemma change_replace (ct : Bytes) (r : SessionSupervisorLeaseRecord)
    (outcome : PersistOutcome) :
    ∃ next, Change sha256 s (.replace ct r outcome) next ∧
      Holds (s.replace sha256 ct r outcome).2 next := by
  apply change_refuse
  intro hv
  apply change_refuse
  intro _
  split
  · exact change_same _
  rename_i found hfn
  apply change_refuse
  intro ht
  apply change_refuse
  intro hs
  apply change_refuse
  intro hk
  apply change_refuse
  intro hf
  apply change_refuse
  intro hw
  simp only [not_or, not_not] at hs
  apply change_of_commit
  apply Change.replace ct r found outcome (by simpa using hv) hfn
  · intro hp he
    simpa [hp, he] using ht
  · exact hs.1
  · exact hs.2
  · intro hr
    simpa [hr] using hk
  · intro he
    simpa [he] using hf
  · simpa using hw

lemma checkOwnerSet_none {count : ℕ} {expected : Bytes} {otherwise : String}
    (h : s.checkOwnerSet sha256 count expected otherwise = none) :
    s.paper.length = count ∧ paperOwnerSetSha256 sha256 s.paper = .ok expected := by
  simp only [checkOwnerSet] at h
  split at h
  · cases h
  rename_i hc
  split at h
  · cases h
  rename_i digest hd
  split at h
  · cases h
  · rename_i he
    rw [← not_not.mp he]
    exact ⟨not_not.mp hc, hd⟩

lemma paperOwnerSetSha256_ok {paper : List SessionSupervisorLeaseRecord} {dg : Bytes}
    (h : paperOwnerSetSha256 sha256 paper = .ok dg) :
    dg = prefixedSha256 sha256 (canonicalOwnerSet sha256 paper) := by
  simp only [paperOwnerSetSha256] at h
  split_ifs at h
  exact (Except.ok.inj h).symm

lemma change_advance (token : Bytes) (est : SessionSupervisorPaperFinalizationState)
    (r : SessionSupervisorLeaseRecord) (outcome : PersistOutcome) :
    ∃ next, Change sha256 s (.advance token est r outcome) next ∧
      Holds (s.advancePaperFinalization sha256 token est r outcome).2 next := by
  apply change_refuse
  intro hv
  apply change_refuse
  intro hm
  apply change_refuse
  intro _
  split
  · exact change_same _
  rename_i previous hf
  apply change_refuse
  intro hb
  split
  · exact change_same _
  rename_i hg
  split
  · exact change_same _
  rename_i ho
  apply change_refuse
  intro hu
  apply change_refuse
  intro ht
  simp only [not_or, not_not, Bool.not_eq_eq_eq_not, Bool.not_true, Bool.not_eq_false] at hv hb
  obtain ⟨rfl, -, hv⟩ := hv
  obtain ⟨hs, hsame, hb⟩ := hb
  subst hs
  have hg := findSome?_eq_none_iff.mp hg
  apply change_of_commit
  apply Change.advance _ r previous outcome hf hsame hv
  · by_contra hnt
    exact hm ⟨fun h => hnt (.inl h), fun h => hnt (.inr h)⟩
  · intro r' hr'
    have hnone := hg r' hr'
    cases hq : r'.paperFinalizationRequired with
    | true => rfl
    | false => simp [advanceMismatch, hq] at hnone
  · constructor
    · intro hp
      by_contra hnt
      apply hb
      refine ⟨⟨hp, ?_⟩, by simpa using hnt⟩
      by_contra hs
      exact hm ⟨fun h => by simp [hp] at h, fun h => hs h.2⟩
    · exact hg
    · exact (checkOwnerSet_none ho).1
    · exact (checkOwnerSet_none ho).2
    · simpa using hu
    · rw [not_not.mp ht, (find_some hf).2]

lemma change_sealGroup (q : SealRequest) (outcome : PersistOutcome) :
    ∃ next, Change sha256 s (.sealGroup q outcome) next ∧
      Holds (s.sealPaperFinalizationGroup sha256 q outcome).2 next := by
  apply change_refuse
  intro hq
  apply change_refuse
  intro _
  split
  · exact change_same _
  rename_i hg
  split
  · exact change_same _
  rename_i ho
  apply change_refuse
  intro hrc
  split
  · split <;> exact change_same _
  rename_i hu
  have hc : SealChecked sha256 s q := by
    constructor
    · simpa using hq
    · exact findSome?_eq_none_iff.mp hg
    · exact (checkOwnerSet_none ho).1
    · exact (checkOwnerSet_none ho).2
    · simpa using hrc
  have hl : Sealable s := by
    constructor
    · intro r hr
      have hnone := hc.group r hr
      simp only [sealMismatch] at hnone
      split_ifs at hnone with _ _ hs
      simp only [not_or, not_and, not_not] at hs
      by_cases hm : r.paperFinalizationState = .fenceComplete
      · exact .inl hm
      · exact .inr (hs.2.2.2.2 hm)
    · simpa using hu
  have hh : Change sha256 s (.sealGroup q outcome) _ :=
    .sealGroup q outcome hl hc
  dsimp only
  split
  · exact ⟨_, hh, rfl, rfl⟩
  · exact change_of_commit _ _ hh

lemma groupReceipt_ok
    {q : SessionSupervisorTerminalAckRequest} {start receipt : Bytes}
    {records : List SessionSupervisorLeaseRecord}
    (h : groupReceipt first q start records = .ok receipt) :
    receipt = start ∨ ∃ r ∈ records, r.finalizationReceipt = receipt ∧
      ∃ before, ackMismatch first q before r = none := by
  induction records generalizing start with
  | nil => exact .inl (Except.ok.inj h).symm
  | cons r rest ih =>
    simp only [groupReceipt] at h
    split at h
    · cases h
    rename_i hnn
    rcases ih h with hr | ⟨r', hr', hc⟩
    · exact .inr ⟨r, by simp, hr.symm, start, hnn⟩
    · exact .inr ⟨r', by simp [hr'], hc⟩

lemma ackRefusal_none
    {a : SessionSupervisorPaperFinalizationAck} (h : ackRefusal sha256 first a = none) :
    ∃ b : ReceiptBinding, b.expectedOwnerSetSha256 = a.expectedOwnerSetSha256 ∧
      validPaperFinalizationReceipt sha256 a.receipt b = true := by
  simp only [ackRefusal] at h
  split_ifs at h with _ hr _
  exact ⟨_, rfl, by simpa using hr⟩

lemma change_acknowledge (q : SessionSupervisorTerminalAckRequest) (outcome : PersistOutcome) :
    ∃ next, Change sha256 s (.acknowledge q outcome) next ∧
      Holds (s.acknowledgeAndPurgePaperFinalizationGroup sha256 q outcome).2 next := by
  apply change_refuse
  intro _
  apply change_refuse
  intro _
  split
  · split <;> exact change_same _
  rename_i hu
  split
  · exact change_same _
  rename_i receipt hc
  apply change_refuse
  intro hw
  split
  · exact change_same _
  rename_i ho
  apply change_refuse
  intro hnn
  split
  · exact change_same _
  rename_i hf
  have hs := (groupReceipt_ok hc).resolve_left hnn
  apply change_of_commit
  apply Change.acknowledge q receipt outcome
  · constructor
    · exact hu
    · obtain ⟨r, hr, hc', -⟩ := hs
      exact ⟨r, hr, hc'⟩
    · exact paperOwnerSetSha256_ok (checkOwnerSet_none ho).2
    · exact ackRefusal_none hf
  · exact ⟨hs, by simpa using hw, hf⟩

lemma step_change (sha256 : Bytes → Bytes) (s : SessionSupervisorLeaseStore) (call : Call) :
    ∃ next, Change sha256 s call next ∧ Holds (s.step sha256 call) next := by
  cases call with
  | put => exact change_put ..
  | remove => exact change_remove ..
  | replace => exact change_replace ..
  | advance => exact change_advance ..
  | sealGroup => exact change_sealGroup ..
  | acknowledge => exact change_acknowledge ..

end SessionSupervisorLeaseStore

end Hepta
