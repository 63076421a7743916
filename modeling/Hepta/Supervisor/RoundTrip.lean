import Hepta.Supervisor.Change
import Hepta.Supervisor.Parse

/-!
# Reading back the stored rows
-/

namespace Hepta

open List Bytes LeaseCodec

namespace LeaseCodec

lemma parseUnsigned_le {s : Bytes} {maximum n : ℕ} (h : parseUnsigned s maximum = some n) :
    n ≤ maximum := by
  simp only [parseUnsigned] at h
  split_ifs at h
  all_goals
    rw [← Option.some.inj h]
    exact not_lt.mp (by assumption)

lemma parseUnsigned_decimal {n maximum : ℕ} (h : n < 2 ^ 64) (hl : n ≤ maximum) :
    parseUnsigned (decimal n) maximum = some n := by
  have hg : ∀ c ∈ decimal n, isDigit c = true := fun c hc => isDigit_of_mem_decimal hc
  have hnl := decimal_ne_nil n
  have ht : (decimal n).takeWhile isDigit = decimal n := List.takeWhile_eq_self_iff.mpr hg
  have hdr : (decimal n).dropWhile isDigit = [] := List.dropWhile_eq_nil_iff.mpr hg
  -- the first digit is neither a blank nor a sign
  have hs : (decimal n).dropWhile isSpace = decimal n := by
    cases hd : decimal n with
    | nil => rfl
    | cons c rest =>
      have hc := hg c (by simp [hd])
      have hnt : isSpace c = false := by
        simp only [isDigit, Bool.and_eq_true, decide_eq_true_eq] at hc
        simp only [isSpace, Bool.or_eq_false_iff, Bool.and_eq_false_iff, decide_eq_false_iff_not]
        omega
      rw [dropWhile_cons_of_neg (by simp [hnt])]
  have hh : ∀ c : UInt8, isDigit c = false → (decimal n).head? ≠ some c := by
    intro c hc heq
    rw [hg c (mem_of_mem_head? heq)] at hc
    cases hc
  simp only [parseUnsigned, hs, hh 45 (by decide), hh 43 (by decide), or_self, if_false,
    ht, hdr, digitsNat_decimal]
  rw [if_neg, if_neg (not_lt.mpr hl)]
  rintro (he | hr | hb)
  · exact hnl he
  · cases hr
  · exact absurd h (not_lt.mpr hb)

lemma numberField_le {fields : List Bytes} {present : Bool} {i maximum n : ℕ}
    (h : numberField fields present i maximum = some n) : n ≤ maximum := by
  simp only [numberField] at h
  split at h
  · exact parseUnsigned_le h
  · rw [← Option.some.inj h]
    exact Nat.zero_le _

/-! ### Records and acknowledgements -/

/-- The numbers of a record are of the types of the source. -/
structure TypedRecord (r : SessionSupervisorLeaseRecord) : Prop where
  peerUid : r.peerUid < 2 ^ 32
  expiresAtMs : r.expiresAtMs < 2 ^ 64
  leaseGeneration : r.leaseGeneration < 2 ^ 64
  predecessorGeneration : r.predecessorGeneration < 2 ^ 64

variable {sha256 : Bytes → Bytes} {r : SessionSupervisorLeaseRecord}
  {a : SessionSupervisorPaperFinalizationAck}

lemma stateOfNumber_stateNumber (state : SessionSupervisorPaperFinalizationState) :
    stateOfNumber (SessionSupervisorLeaseStore.stateNumber state) = state := by
  cases state <;> rfl

open SessionSupervisorLeaseStore in
lemma recordOfFields_recordFields (h : TypedRecord r) (hc : r.expectedOwnerCount ≤ 4096) :
    recordOfFields 8 (recordFields r) = some r := by
  obtain ⟨hr, he, hgeneration, hp⟩ := h
  have hf : ∀ b : Bool, parseUnsigned (flag b) 1 = some b.toNat := by
    intro b
    exact parseUnsigned_decimal (by cases b <;> decide) (by cases b <;> decide)
  have hs : parseUnsigned (decimal (stateNumber r.paperFinalizationState)) 3 =
      some (stateNumber r.paperFinalizationState) := by
    cases r.paperFinalizationState <;> exact parseUnsigned_decimal (by decide) (by decide)
  simp [recordOfFields, recordFields, hexField, numberField, tagged, predecessorState, legacy,
    completeState, recoveryState, ownerState, hf, hs, stateOfNumber_stateNumber,
    parseUnsigned_decimal (show r.peerUid < 2 ^ 64 by omega)
      (show r.peerUid ≤ 4294967295 by omega),
    parseUnsigned_decimal he (show r.expiresAtMs ≤ 18446744073709551615 by omega),
    parseUnsigned_decimal hgeneration (show r.leaseGeneration ≤ 18446744073709551615 by omega),
    parseUnsigned_decimal hp
      (show r.predecessorGeneration ≤ 18446744073709551615 by omega),
    parseUnsigned_decimal (show r.expectedOwnerCount < 2 ^ 64 by omega) hc]

open SessionSupervisorLeaseStore in
lemma ackOfFields_ackFields (hc : a.expectedOwnerCount ≤ 4096)
    (hg : a.acknowledgingOwnerGeneration < 2 ^ 64) : ackOfFields (ackFields a) = some a := by
  simp [ackOfFields, ackFields, hexField, numberField,
    parseUnsigned_decimal (show a.expectedOwnerCount < 2 ^ 64 by omega) hc,
    parseUnsigned_decimal hg
      (show a.acknowledgingOwnerGeneration ≤ 18446744073709551615 by omega)]

/-- The checks of the codec are the ones of the calls. -/
lemma validMutableLeaseRecord_iff : validMutableLeaseRecord r = true ↔
    validParsedLease r = true ∧ validParsedScope r = true ∧
      validPaperFinalizationRecord r = true := by
  simp only [validMutableLeaseRecord, validParsedLease, validParsedScope, Bool.and_eq_true]
  tauto

lemma expectedOwnerCount_le (h : validPaperFinalizationRecord r = true) :
    r.expectedOwnerCount ≤ 4096 := by
  simp only [validPaperFinalizationRecord] at h
  split at h
  · simp only [Bool.and_eq_true, decide_eq_true_eq] at h
    omega
  split at h
  · cases h
  · rename_i ht
    simp only [Bool.or_eq_true, not_or, decide_eq_true_eq, not_lt] at ht
    exact ht.1.2

/-- A record that is read as it is written. -/
structure ReadableRecord (sha256 : Bytes → Bytes) (r : SessionSupervisorLeaseRecord) : Prop where
  typed : TypedRecord r
  valid : validMutableLeaseRecord r = true
  receipt : validSealedReceipt sha256 r = true

/-- An acknowledgement that is read as it is written. -/
structure ReadableAck (sha256 : Bytes → Bytes) (a : SessionSupervisorPaperFinalizationAck) :
    Prop where
  generation : a.acknowledgingOwnerGeneration < 2 ^ 64
  valid : validParsedAck sha256 a = true

lemma ReadableAck.count_le (h : ReadableAck sha256 a) : a.expectedOwnerCount ≤ 4096 := by
  have hvalid := h.valid
  simp only [validParsedAck, validPaperFinalizationAck, Bool.and_eq_true, decide_eq_true_eq] at hvalid
  exact hvalid.1.1.1.1.1.1.1.1.1.1.1.1.1.1.1.1.1.2

lemma ReadableAck.id_ne_nil (h : ReadableAck sha256 a) : a.finalizationId ≠ [] := by
  have hvalid := h.valid
  simp only [validParsedAck, validPaperFinalizationAck, finalizationText, Bool.and_eq_true,
    decide_eq_true_eq] at hvalid
  exact hvalid.1.1.1.1.1.1.1.1.1.1.1.1.1.1.1.1.1.1.1.1.2.1.1

end LeaseCodec

namespace SessionSupervisorLeaseStore

variable {sha256 : Bytes → Bytes} {s : SessionSupervisorLeaseStore}
  {r : SessionSupervisorLeaseRecord} {a : SessionSupervisorPaperFinalizationAck} {row : List Bytes}

/-! ### Rows -/

lemma fields_no_tab {body : Bytes} (h : row = recordFields r ∨ row = ackFields a)
    (hb : body ∈ row) : tab ∉ body ∧ newline ∉ body := by
  have hh : ∀ s, tab ∉ hexEncode s ∧ newline ∉ hexEncode s :=
    fun s => ⟨hexEncode_no_tab s, hexEncode_no_newline s⟩
  have hd : ∀ n, tab ∉ decimal n ∧ newline ∉ decimal n :=
    fun n => ⟨decimal_no_tab n, decimal_no_newline n⟩
  have hr : tab ∉ ascii "R" ∧ newline ∉ ascii "R" := by decide
  have ha : tab ∉ ascii "A" ∧ newline ∉ ascii "A" := by decide
  rcases h with rfl | rfl
  · simp only [recordFields, mem_cons, not_mem_nil, or_false] at hb
    rcases hb with h | h | h | h | h | h | h | h | h | h | h | h | h | h | h | h | h | h | h | h |
      h | h | h | h | h | h | h <;> subst h <;>
      first | exact hr | exact hh _ | exact hd _
  · simp only [ackFields, mem_cons, not_mem_nil, or_false] at hb
    rcases hb with h | h | h | h | h | h | h | h | h | h | h | h | h | h | h | h <;> subst h <;>
      first | exact ha | exact hh _ | exact hd _

lemma mem_intercalate {c : UInt8} {bds : List Bytes} (h : c ∈ [tab].intercalate bds) :
    c = tab ∨ ∃ body ∈ bds, c ∈ body := by
  induction bds with
  | nil => simp [List.intercalate] at h
  | cons body bds ih =>
    cases bds with
    | nil => exact .inr ⟨body, by simp, by simpa using h⟩
    | cons =>
      rw [intercalate_cons_cons] at h
      simp only [mem_append, mem_singleton] at h
      rcases h with (h | h) | h
      · exact .inr ⟨body, by simp, h⟩
      · exact .inl h
      · rcases ih h with ht | ⟨body', hb', hm⟩
        · exact .inl ht
        · exact .inr ⟨body', mem_cons_of_mem _ hb', hm⟩

def rowLine (row : List Bytes) : Bytes := [tab].intercalate row

lemma rowLine_spec (h : row = recordFields r ∨ row = ackFields a) :
    newline ∉ rowLine row ∧ fields tab (rowLine row) = row ∧ rowLine row ≠ [] := by
  have he : row ≠ [] := by
    rcases h with rfl | rfl
    · simp [recordFields]
    · simp [ackFields]
  have hf : fields tab (rowLine row) = row :=
    fields_intercalate he fun body hb => (fields_no_tab h hb).1
  refine ⟨?_, hf, ?_⟩
  · intro hm
    rcases mem_intercalate hm with ht | ⟨body, hb, hm⟩
    · exact absurd ht (by decide)
    · exact (fields_no_tab h hb).2 hm
  · intro hl
    rw [hl] at hf
    rcases h with rfl | rfl
    · simp [fields, recordFields] at hf
    · simp [fields, ackFields] at hf

lemma lines_serializePlaintext (s : SessionSupervisorLeaseStore) :
    lines s.serializePlaintext = ascii "HSL8" ::
      (s.records.map fun r => rowLine (recordFields r)) ++
        s.acks.map fun a => rowLine (ackFields a) := by
  have ht : s.serializePlaintext = ((ascii "HSL8" ::
      (s.records.map fun r => rowLine (recordFields r)) ++
        s.acks.map fun a => rowLine (ackFields a)).map (· ++ [newline])).flatten := by
    simp [serializePlaintext, tabbed, rowLine, flatMap_def, Function.comp_def]
  rw [ht]
  apply lines_flatten
  intro body hb
  simp only [cons_append, mem_cons, mem_append, List.mem_map] at hb
  rcases hb with rfl | ⟨r, -, rfl⟩ | ⟨a, -, rfl⟩
  · decide
  · exact (rowLine_spec (a := {}) (.inl rfl)).1
  · exact (rowLine_spec (r := {}) (.inr rfl)).1

/-! ### Reading the rows -/

/-- What the rows of a file are checked for. -/
structure Rows (sha256 : Bytes → Bytes) (s : SessionSupervisorLeaseStore) : Prop where
  recordOrder : SortedByKey.Ordered SessionSupervisorLeaseRecord.token s.records
  ackOrder : SortedByKey.Ordered SessionSupervisorPaperFinalizationAck.finalizationId s.acks
  record : ∀ r ∈ s.records, ReadableRecord sha256 r
  ack : ∀ a ∈ s.acks, ReadableAck sha256 a
  watch : ∀ r ∈ s.records, s.watchOwnerExists r (some r.token) = false

lemma putAck_acks (s : SessionSupervisorLeaseStore) (a : SessionSupervisorPaperFinalizationAck) :
    (s.putAck a).acks =
      SortedByKey.insert SessionSupervisorPaperFinalizationAck.finalizationId a s.acks := rfl

lemma parseRow_record (h : ReadableRecord sha256 r) (hfr : s.find r.token = none)
    (hw : s.watchOwnerExists r none = false) :
    s.parseRow sha256 8 (rowLine (recordFields r)) = .ok (s.putRecord r) := by
  obtain ⟨-, hf, he⟩ := rowLine_spec (r := r) (a := {}) (.inl rfl)
  obtain ⟨hs, hc, hvalid⟩ := validMutableLeaseRecord_iff.mp h.valid
  have hr := recordOfFields_recordFields h.typed (expectedOwnerCount_le hvalid)
  have ht : (recordFields r).headD [] = ascii "R" := rfl
  have hl : (recordFields r).length = fieldCount 8 := rfl
  have ho : ¬ascii "R" = ascii "A" := by decide
  have how : ownerState 8 = true := rfl
  rw [parseRow, hf, ht, if_neg he, if_neg (fun h => ho h.2),
    if_neg (fun h => ho h.2), if_neg (fun h => h.2 rfl), parseRecord, if_neg (by simp [hl]),
    hr]
  simp [hs, hvalid, h.receipt, hfr, hc, hw, how]

lemma parseRow_ack (h : ReadableAck sha256 a) (hr : s.ackOf a.finalizationId = none) :
    s.parseRow sha256 8 (rowLine (ackFields a)) = .ok (s.putAck a) := by
  obtain ⟨-, hf, he⟩ := rowLine_spec (r := {}) (a := a) (.inr rfl)
  have ha := ackOfFields_ackFields h.count_le h.generation
  have ht : (ackFields a).headD [] = ascii "A" := rfl
  have hl : (ackFields a).length = 16 := rfl
  rw [parseRow, hf, ht, if_neg he, if_neg (fun h => absurd h.1 (by decide)),
    if_pos ⟨rfl, rfl⟩, parseAck, if_neg (by simp [hl]), ha]
  simp [h.valid, hr]

lemma watchOwnerExists_eq_false {except : Option Bytes} : s.watchOwnerExists r except = false ↔
    (isWatch r = true → ∀ r' ∈ s.records, some r'.token ≠ except → isWatch r' = true →
      r'.agentId = r.agentId → r'.sessionId ≠ r.sessionId) := by
  simp only [watchOwnerExists, Bool.and_eq_false_iff, any_eq_false, Bool.and_eq_true,
    decide_eq_true_eq, not_and]
  constructor
  · rintro (h | h) hw r' hr'
    · rw [hw] at h
      cases h
    · intro he hw' ha hs
      exact h r' hr' ⟨⟨he, hw'⟩, ha⟩ hs
  · intro h
    cases hw : isWatch r with
    | false => exact .inl rfl
    | true => exact .inr fun r' hr' hm => h hw r' hr' hm.1.1 hm.1.2 hm.2

/-- Rows are read one after the other, each behind those before it. -/
lemma foldlM_rowLines {α : Type} {l : List α} {line : α → Bytes}
    {store : List α → SessionSupervisorLeaseStore}
    (h : ∀ done a rest, l = done ++ a :: rest →
      (store done).parseRow sha256 8 (line a) = .ok (store (done ++ [a])))
    {done rest : List α} (hl : l = done ++ rest) :
    (rest.map line).foldlM (parseRow sha256 8) (store done) = .ok (store l) := by
  induction rest generalizing done with
  | nil =>
    rw [hl, append_nil]
    rfl
  | cons a rest ih =>
    rw [map_cons, foldlM_cons, h done a rest hl]
    exact ih (by simp [hl])

lemma parseRow_records (hs : Rows sha256 s) {done rest : List SessionSupervisorLeaseRecord}
    (h : s.records = done ++ r :: rest) :
    parseRow sha256 8 { records := done } (rowLine (recordFields r)) =
      .ok { records := done ++ [r] } := by
  have hm : r ∈ s.records := by simp [h]
  have ho := hs.recordOrder
  rw [h, SortedByKey.Ordered, pairwise_append] at ho
  have hb : ∀ r' ∈ done, Bytes.le r'.token r.token = true ∧ r'.token ≠ r.token :=
    fun r' hr' => ho.2.2 r' hr' r (by simp)
  rw [parseRow_record (hs.record r hm)]
  · exact congrArg (fun records => Except.ok ({ records } : SessionSupervisorLeaseStore))
      (SortedByKey.insert_append hb)
  · exact List.find?_eq_none.mpr fun r' hr' => by simpa using (hb r' hr').2
  · apply watchOwnerExists_eq_false.mpr
    intro hw r' hr' _ hw' ha
    apply watchOwnerExists_eq_false.mp (hs.watch r hm) hw r' (by simp [h, hr']) _ hw' ha
    simpa using (hb r' hr').2

lemma parseRow_acks (hs : Rows sha256 s) {done rest : List SessionSupervisorPaperFinalizationAck}
    (h : s.acks = done ++ a :: rest) :
    parseRow sha256 8 { records := s.records, acks := done } (rowLine (ackFields a)) =
      .ok { records := s.records, acks := done ++ [a] } := by
  have ho := hs.ackOrder
  rw [h, SortedByKey.Ordered, pairwise_append] at ho
  have hb : ∀ a' ∈ done, Bytes.le a'.finalizationId a.finalizationId = true ∧
      a'.finalizationId ≠ a.finalizationId :=
    fun a' ha' => ho.2.2 a' ha' a (by simp)
  rw [parseRow_ack (hs.ack a (by simp [h]))]
  · exact congrArg
      (fun acks => Except.ok ({ records := s.records, acks } : SessionSupervisorLeaseStore))
      (SortedByKey.insert_append hb)
  · exact List.find?_eq_none.mpr fun a' ha' => by simpa using (hb a' ha').2

lemma parsePlaintext_serializePlaintext (hs : Rows sha256 s) :
    parsePlaintext sha256 s.serializePlaintext =
      checkStore sha256 { records := s.records, acks := s.acks } := by
  have hv : headerVersion (ascii "HSL8") = some 8 := by decide
  have hw : ((s.records.map fun r => rowLine (recordFields r)) ++
      s.acks.map fun a => rowLine (ackFields a)).foldlM (parseRow sha256 8) {} =
        .ok { records := s.records, acks := s.acks } := by
    rw [foldlM_append]
    have hr := foldlM_rowLines (fun _ _ _ h => parseRow_records hs h) (nil_append s.records).symm
    rw [hr]
    exact foldlM_rowLines (fun _ _ _ h => parseRow_acks hs h) (nil_append s.acks).symm
  rw [parsePlaintext, lines_serializePlaintext]
  simp only [cons_append, hv, hw]

end SessionSupervisorLeaseStore

end Hepta
