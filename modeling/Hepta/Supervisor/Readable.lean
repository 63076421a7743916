import Hepta.Supervisor.Freeze
import Hepta.Supervisor.Group

/-!
# Rows that stay readable

Every call of the lease store keeps the rows readable one by one, and a file that is read has rows
that are read back.
-/

namespace Hepta

open Bytes LeaseCodec

namespace LeaseCodec

variable {fields : List Bytes}

lemma recordOfFields_typed {version : ℕ} {r : SessionSupervisorLeaseRecord}
    (h : recordOfFields version fields = some r) : TypedRecord r := by
  -- the numbers are the sixth to the eighth field and the tenth
  simp only [recordOfFields] at h
  iterate 5 obtain ⟨_, -, h⟩ := Option.bind_eq_some_iff.mp h
  obtain ⟨peerUid, hp, h⟩ := Option.bind_eq_some_iff.mp h
  obtain ⟨expiresAtMs, he, h⟩ := Option.bind_eq_some_iff.mp h
  obtain ⟨lg, hgeneration, h⟩ := Option.bind_eq_some_iff.mp h
  obtain ⟨_, -, h⟩ := Option.bind_eq_some_iff.mp h
  obtain ⟨predecessorGeneration, hr, h⟩ := Option.bind_eq_some_iff.mp h
  iterate 16 obtain ⟨_, -, h⟩ := Option.bind_eq_some_iff.mp h
  rw [← Option.some.inj h]
  have hp := numberField_le hp
  have he := numberField_le he
  have hgeneration := numberField_le hgeneration
  have hr := numberField_le hr
  constructor <;> dsimp only <;> omega

lemma ackOfFields_typed {a : SessionSupervisorPaperFinalizationAck}
    (h : ackOfFields fields = some a) : a.acknowledgingOwnerGeneration < 2 ^ 64 := by
  simp only [ackOfFields] at h
  iterate 9 obtain ⟨_, -, h⟩ := Option.bind_eq_some_iff.mp h
  obtain ⟨generation, hgeneration, h⟩ := Option.bind_eq_some_iff.mp h
  iterate 5 obtain ⟨_, -, h⟩ := Option.bind_eq_some_iff.mp h
  rw [← Option.some.inj h]
  have hgeneration := numberField_le hgeneration
  dsimp only
  omega

variable {sha256 : Bytes → Bytes} {r : SessionSupervisorLeaseRecord}

lemma validSealedReceipt_of_unsealed (h : r.paperFinalizationState ≠ .auditSealed) :
    validSealedReceipt sha256 r = true := by
  simp [validSealedReceipt, h]

lemma unbound_of_none (hv : validPaperFinalizationRecord r = true)
    (h : r.paperFinalizationState = .none) : r.finalizationId = [] ∧ r.ownerTokenSha256 = [] := by
  simp only [validPaperFinalizationRecord, h, if_true, Bool.and_eq_true, decide_eq_true_eq] at hv
  exact ⟨hv.1.1.1.1.1.2, hv.1.1.2⟩

end LeaseCodec

namespace SessionSupervisorLeaseStore

variable {sha256 : Bytes → Bytes} {s next s' : SessionSupervisorLeaseStore} {call : Call}
  {r r' found : SessionSupervisorLeaseRecord} {a : SessionSupervisorPaperFinalizationAck}
  {version : ℕ} {row : List Bytes}

/-! ### Rows -/

lemma rows_empty : Rows sha256 {} := by
  constructor <;> simp [SortedByKey.Ordered]

lemma Rows.of_holds (hs : Rows sha256 next) (h : Holds s next) : Rows sha256 s := by
  obtain ⟨hr, ha⟩ := h
  constructor
  · rw [hr]
    exact hs.recordOrder
  · rw [ha]
    exact hs.ackOrder
  · rw [hr]
    exact hs.record
  · rw [ha]
    exact hs.ack
  · simp only [watchOwnerExists, hr]
    exact hs.watch

lemma Rows.filter (hs : Rows sha256 s) (p : SessionSupervisorLeaseRecord → Bool) :
    Rows sha256 { s with records := s.records.filter p } := by
  constructor
  · exact hs.recordOrder.filter p
  · exact hs.ackOrder
  · exact fun r hr => hs.record r (List.mem_filter.mp hr).1
  · exact hs.ack
  · intro r hr
    apply watchOwnerExists_eq_false.mpr
    intro hw r' hr'
    exact watchOwnerExists_eq_false.mp (hs.watch r (List.mem_filter.mp hr).1) hw r'
      (List.mem_filter.mp hr').1

lemma Rows.putRecord (hs : Rows sha256 s) (hr : ReadableRecord sha256 r)
    (hf : s.watchOwnerExists r (some r.token) = false) : Rows sha256 (s.putRecord r) := by
  constructor
  · rw [putRecord_records]
    exact hs.recordOrder.insert r
  · exact hs.ackOrder
  · intro r' hr'
    rcases mem_putRecord.mp hr' with rfl | ⟨hr', -⟩
    · exact hr
    · exact hs.record r' hr'
  · exact hs.ack
  · intro r₁ hr₁
    apply watchOwnerExists_eq_false.mpr
    intro hw₁ r₂ hr₂ he hw₂ ha hss
    rcases mem_putRecord.mp hr₁ with rfl | ⟨ho₁, he₁⟩
    · rcases mem_putRecord.mp hr₂ with rfl | ⟨ho₂, -⟩
      · exact he rfl
      · exact watchOwnerExists_eq_false.mp hf hw₁ r₂ ho₂ he hw₂ ha hss
    · rcases mem_putRecord.mp hr₂ with rfl | ⟨ho₂, -⟩
      · exact watchOwnerExists_eq_false.mp hf hw₂ r₁ ho₁ (by simpa using he₁) hw₁
          ha.symm hss.symm
      · exact watchOwnerExists_eq_false.mp (hs.watch r₁ ho₁) hw₁ r₂ ho₂ he hw₂ ha
          hss

lemma Rows.putAck (hs : Rows sha256 s) (ha : ReadableAck sha256 a) : Rows sha256 (s.putAck a) := by
  constructor
  · exact hs.recordOrder
  · rw [putAck_acks]
    exact hs.ackOrder.insert a
  · exact hs.record
  · intro a' ha'
    rcases acks_putAck.mp ha' with rfl | ⟨ha', -⟩
    · exact ha
    · exact hs.ack a' ha'
  · exact hs.watch

/-! ### Files -/

lemma watchOwnerExists_of_none (h : s.watchOwnerExists r none = false) (except : Option Bytes) :
    s.watchOwnerExists r except = false := by
  apply watchOwnerExists_eq_false.mpr
  intro hw r' hr' _
  exact watchOwnerExists_eq_false.mp h hw r' hr' (by simp)

lemma parseRecord_rows (hs : Rows sha256 s)
    (h : s.parseRecord sha256 version row = .ok s') : Rows sha256 s' := by
  simp only [parseRecord] at h
  split at h
  · cases h
  split at h
  · cases h
  rename_i r hr
  split_ifs at h with hl hv _ _ hc hw
  simp only [Bool.not_eq_true', Bool.not_eq_false, Bool.or_eq_true, not_or] at hl hv hc
  rw [← Except.ok.inj h]
  apply hs.putRecord
  · exact ⟨recordOfFields_typed hr, validMutableLeaseRecord_iff.mpr ⟨hl, hc, hv.1⟩, hv.2⟩
  · exact watchOwnerExists_of_none (by simpa using hw) _

lemma parseAck_rows (hs : Rows sha256 s) (h : s.parseAck sha256 row = .ok s') : Rows sha256 s' := by
  simp only [parseAck] at h
  split at h
  · cases h
  split at h
  · cases h
  rename_i a ha
  split_ifs at h with hv
  simp only [Bool.or_eq_true, Bool.not_eq_true', not_or, Bool.not_eq_false] at hv
  rw [← Except.ok.inj h]
  exact hs.putAck ⟨ackOfFields_typed ha, hv.1⟩

lemma parseRow_rows {line : Bytes} (hs : Rows sha256 s)
    (h : s.parseRow sha256 version line = .ok s') : Rows sha256 s' := by
  simp only [parseRow] at h
  split_ifs at h
  · rw [← Except.ok.inj h]
    exact hs
  · exact parseAck_rows hs h
  · exact parseRecord_rows hs h

lemma foldlM_rows {rows : List Bytes} (hs : Rows sha256 s)
    (h : rows.foldlM (parseRow sha256 version) s = .ok s') : Rows sha256 s' := by
  induction rows generalizing s with
  | nil =>
    rw [← Except.ok.inj h]
    exact hs
  | cons line rows ih =>
    rw [List.foldlM_cons] at h
    cases hr : s.parseRow sha256 version line with
    | error =>
      rw [hr] at h
      cases h
    | ok =>
      rw [hr] at h
      exact ih (parseRow_rows hs hr) h

lemma readable_of_parsePlaintext {plaintext : Bytes}
    (h : parsePlaintext sha256 plaintext = .ok s) : Readable sha256 s := by
  simp only [parsePlaintext] at h
  split at h
  · cases h
  split at h
  · cases h
  split at h
  · cases h
  · rename_i loaded hw
    obtain ⟨rfl, hr⟩ := (foldlM_rows rows_empty hw).checkStore_ok.mp h
    exact hr

lemma Readable.parsePlaintext (hs : Readable sha256 s) :
    parsePlaintext sha256 s.serializePlaintext = .ok { records := s.records, acks := s.acks } := by
  have hr : Rows sha256 { records := s.records, acks := s.acks } :=
    hs.toRows.of_holds ⟨rfl, rfl⟩
  rw [parsePlaintext_serializePlaintext hs.toRows]
  exact hr.checkStore_ok.mpr ⟨rfl, hr, hs.group, hs.conflict⟩

lemma readable_empty : Readable sha256 {} := by
  refine ⟨rows_empty, ?_, by simp⟩
  constructor <;> simp [paper]

lemma Readable.of_holds (hs : Readable sha256 next) (h : Holds s next) : Readable sha256 s := by
  refine ⟨hs.toRows.of_holds h, ?_, ?_⟩
  · rw [paper, h.1]
    exact hs.group
  · rw [paper, h.1, h.2]
    exact hs.conflict

lemma Readable.sound (hs : Readable sha256 s) : Sound s := by
  have hvalid := fun r hr => valid_of_mutable (hs.record r hr).valid
  constructor
  · exact fun r hr r' hr' ht => hs.recordOrder.eq_of_key hr hr' ht
  · intro r hr hst
    have hq := required_of_bound (hvalid r hr) hst
    exact ⟨isPaper_of_required (hvalid r hr) hq, hq⟩
  · intro ho
    obtain ⟨g, hg, hst⟩ := isOpen_iff.mp ho
    have hq := required_of_bound (hvalid g hg) hst
    have hp := mem_paper.mpr ⟨hg, isPaper_of_required (hvalid g hg) hq⟩
    exact hs.group.required g hp (by simpa [isBound] using hst)
  · intro g hg hl r hr
    have ha := (hs.group.sealed g hg (by simpa [isSealed] using hl) r hr).1
    simpa [isSealed] using ha

end SessionSupervisorLeaseStore

end Hepta
