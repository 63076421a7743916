import Hepta.Supervisor.Freeze

/-!
# The retirement of finalized owners

The receipt of an acknowledged group gives its owner set, in which every token of the group is found
again, so that none of them becomes a paper lease once more.
-/

namespace Hepta

open List Bytes LeaseCodec

namespace LeaseCodec

variable {sha256 : Bytes → Bytes}

/-! ### The owner set of a receipt -/

/-- The digests are 64 hexadecimal digits. -/
def Digests (sha256 : Bytes → Bytes) : Prop := ∀ text, isSha256 (sha256 text) = true

lemma Digests.no_newline (h : Digests sha256) (text : Bytes) :
    newline ∉ prefixedSha256 sha256 text := by
  have ha := h text
  simp only [isSha256, Bool.and_eq_true, all_eq_true] at ha
  simp only [prefixedSha256, mem_append, not_or]
  refine ⟨by decide, ?_⟩
  intro hm
  have hv := ha.2 newline hm
  rw [hexValue_newline] at hv
  cases hv

def ownerBody (sha256 : Bytes → Bytes) (r : SessionSupervisorLeaseRecord) : Bytes :=
  prefixedSha256 sha256 (r.token ++ [newline]) ++ [tab] ++ decimal r.leaseGeneration ++ [tab] ++
    hexEncode r.ownerAccount ++ [tab] ++ hexEncode r.ownerExecutionDomain

lemma ownerLine_eq (r : SessionSupervisorLeaseRecord) :
    ownerLine sha256 r = ownerBody sha256 r ++ [newline] := rfl

lemma Digests.ownerBody (h : Digests sha256) (r : SessionSupervisorLeaseRecord) :
    newline ∉ ownerBody sha256 r := by
  simp only [LeaseCodec.ownerBody, mem_append, mem_singleton, not_or]
  exact ⟨⟨⟨⟨⟨⟨h.no_newline _, by decide⟩, decimal_no_newline _⟩, by decide⟩,
    hexEncode_no_newline _⟩, by decide⟩, hexEncode_no_newline _⟩

lemma Digests.mem_lines (h : Digests sha256) {paper : List SessionSupervisorLeaseRecord}
    {r : SessionSupervisorLeaseRecord} (hr : r ∈ paper) :
    LeaseCodec.ownerBody sha256 r ∈ lines (canonicalOwnerSet sha256 paper) := by
  have hp := mergeSort_perm (paper.map (ownerLine sha256)) Bytes.le
  -- the sorted lines are the bodies of some of the records, each with its newline
  have hd : ∃ bds : List Bytes,
      (paper.map (ownerLine sha256)).mergeSort Bytes.le = bds.map (· ++ [newline]) ∧
      (∀ body ∈ bds, ∃ r ∈ paper, body = LeaseCodec.ownerBody sha256 r) := by
    refine ⟨((paper.map (ownerLine sha256)).mergeSort Bytes.le).map dropLast, ?_, ?_⟩
    · rw [map_map]
      refine ((map_congr_left ?_).trans (map_id _)).symm
      intro line hl
      obtain ⟨r, -, rfl⟩ := mem_map.mp (hp.mem_iff.mp hl)
      simp [ownerLine_eq]
    · intro body hb
      obtain ⟨_, hl, rfl⟩ := mem_map.mp hb
      obtain ⟨r, hr, rfl⟩ := mem_map.mp (hp.mem_iff.mp hl)
      exact ⟨r, hr, by simp [ownerLine_eq]⟩
  obtain ⟨bds, hs, hf⟩ := hd
  have hm : ownerLine sha256 r ∈ bds.map (· ++ [newline]) := by
    rw [← hs]
    exact hp.mem_iff.mpr (mem_map_of_mem hr)
  obtain ⟨_, hb, heq⟩ := mem_map.mp hm
  rw [ownerLine_eq, append_left_inj] at heq
  rw [canonicalOwnerSet, hs, lines_flatten]
  · exact heq ▸ hb
  · intro body' hb'
    obtain ⟨r', -, rfl⟩ := hf body' hb'
    exact h.ownerBody r'

lemma keyedValues_lines {keys : List String} {ls values : List Bytes}
    (h : keyedValues keys ls = some values) :
    ls = (keys.zip values).map (fun x => ascii x.1 ++ ascii "=" ++ x.2) ∧
      keys.length = values.length := by
  induction keys generalizing ls values with
  | nil =>
    cases ls with
    | nil => simp_all [keyedValues]
    | cons => simp [keyedValues] at h
  | cons key keys ih =>
    cases ls with
    | nil => simp [keyedValues] at h
    | cons line ls =>
      simp only [keyedValues] at h
      split at h
      · rename_i hp
        obtain ⟨values', hv', rfl⟩ := Option.map_eq_some_iff.mp h
        obtain ⟨hs, hl⟩ := ih hv'
        obtain ⟨value, rfl⟩ := isPrefixOf_iff_prefix.mp hp
        simp [hs, hl]
      · cases h

lemma not_ownerSetLine {key value : Bytes} (h₁ : ¬ key <+: ascii "owner_set_canonical_hex=")
    (h₂ : ¬ ascii "owner_set_canonical_hex=" <+: key) :
    (ascii "owner_set_canonical_hex=").isPrefixOf (key ++ value) = false := by
  rw [Bool.eq_false_iff]
  intro hp
  have hl := isPrefixOf_iff_prefix.mp hp
  rcases prefix_or_prefix_of_prefix hl (prefix_append key value) with h | h
  · exact h₂ h
  · exact h₁ h

lemma receiptOwnerSet_of_valid {receipt : Bytes} {b : ReceiptBinding}
    (h : validPaperFinalizationReceipt sha256 receipt b = true) :
    ∃ canonical, receiptOwnerSet receipt = some canonical ∧
      b.expectedOwnerSetSha256 = prefixedSha256 sha256 canonical := by
  simp only [validPaperFinalizationReceipt, Bool.and_eq_true] at h
  obtain ⟨-, h⟩ := h
  split at h
  · cases h
  rename_i values hv
  simp only [Bool.and_eq_true] at h
  obtain ⟨-, hs⟩ := h
  obtain ⟨hln, hl⟩ := keyedValues_lines hv
  simp only [validOwnerSet] at hs
  split at hs
  · cases hs
  rename_i canonical hc
  simp only [Bool.and_eq_true, decide_eq_true_eq] at hs
  refine ⟨canonical, ?_, hs.1.1⟩
  -- the eight first values, and with them the eight first lines
  obtain ⟨v₀, v₁, v₂, v₃, v₄, v₅, v₆, v₇, rest, rfl⟩ : ∃ v₀ v₁ v₂ v₃ v₄ v₅ v₆ v₇ rest,
      values = v₀ :: v₁ :: v₂ :: v₃ :: v₄ :: v₅ :: v₆ :: v₇ :: rest := by
    match values, hl with
    | v₀ :: v₁ :: v₂ :: v₃ :: v₄ :: v₅ :: v₆ :: v₇ :: rest, _ =>
      exact ⟨v₀, v₁, v₂, v₃, v₄, v₅, v₆, v₇, rest, rfl⟩
  have hfound : (lines receipt).find? (fun line =>
      (ascii "owner_set_canonical_hex=").isPrefixOf line) =
        some (ascii "owner_set_canonical_hex=" ++ v₇) := by
    rw [hln]
    simp only [receiptKeys, zip_cons_cons, map_cons]
    iterate 7 rw [find?_cons_of_neg (by rw [not_ownerSetLine (by decide) (by decide)]; decide)]
    have hk : ascii "owner_set_canonical_hex" ++ ascii "=" =
        ascii "owner_set_canonical_hex=" := by decide
    rw [hk, find?_cons_of_pos]
    exact isPrefixOf_iff_prefix.mpr (prefix_append _ _)
  simp only [receiptOwnerSet, hfound, Option.bind_some, drop_left]
  exact hc

end LeaseCodec

namespace SessionSupervisorLeaseStore

variable {sha256 : Bytes → Bytes} {s next : SessionSupervisorLeaseStore}
  {r : SessionSupervisorLeaseRecord} {call : Call} {token : Bytes}

/-! ### Acknowledged owners -/

lemma Acknowledged.retired (hg : Digests sha256)
    {a : SessionSupervisorPaperFinalizationAck} (h : Acknowledged sha256 s a)
    (ha : NoCollision sha256 s) (hr : r ∈ s.paper) :
    paperFinalizationReceiptContainsOwner a.receipt
      (prefixedSha256 sha256 (r.token ++ [newline])) = true := by
  obtain ⟨b, hb, hv⟩ := h.valid
  obtain ⟨canonical, hc, hd⟩ := receiptOwnerSet_of_valid hv
  obtain ⟨r', hr', hrc⟩ := h.receipt
  have hs : canonical = canonicalOwnerSet sha256 s.paper := by
    apply ha r' hr' canonical (hrc ▸ hc)
    rw [hb, h.ownerSet] at hd
    exact (append_cancel_left hd).symm
  subst hs
  simp only [paperFinalizationReceiptContainsOwner, hc, Option.any_some, any_eq_true]
  refine ⟨_, hg.mem_lines hr, ?_⟩
  rw [List.isPrefixOf_iff_prefix]
  simp only [ownerBody, append_assoc]
  rw [← append_assoc]
  exact prefix_append _ _

lemma retired_iff {acks : List SessionSupervisorPaperFinalizationAck} :
    retiredPaperOwner sha256 acks token = true ↔ ∃ a ∈ acks,
      paperFinalizationReceiptContainsOwner a.receipt
        (prefixedSha256 sha256 (token ++ [newline])) = true := by
  simp [retiredPaperOwner]

lemma Change.retired (hc : Change sha256 s call next)
    (h : retiredPaperOwner sha256 s.acks token = true) :
    retiredPaperOwner sha256 next.acks token = true := by
  cases hc with
  | acknowledge q receipt outcome ack =>
    obtain ⟨a, ha, hcn⟩ := retired_iff.mp h
    refine retired_iff.mpr ⟨a, acks_putAck.mpr (.inr ⟨ha, ?_⟩), hcn⟩
    simpa using List.find?_eq_none.mp ack.unknown a ha
  | _ => exact h

lemma exists_of_mem_sealRecords {q : SealRequest} {l : List SessionSupervisorLeaseRecord}
    {r' : SessionSupervisorLeaseRecord} (h : r' ∈ (sealRecords q l).2) :
    ∃ r ∈ l, r'.token = r.token ∧ isPaper r' = isPaper r := by
  induction l with
  | nil => cases h
  | cons r l ih =>
    have hs : r' ∈ (sealRecords q l).2 →
        ∃ r₀ ∈ r :: l, r'.token = r₀.token ∧ isPaper r' = isPaper r₀ := by
      intro hm
      obtain ⟨r₀, hr₀, heq⟩ := ih hm
      exact ⟨r₀, mem_cons_of_mem _ hr₀, heq⟩
    simp only [sealRecords] at h
    split at h
    · rcases mem_cons.mp h with rfl | hm
      · exact ⟨r', by simp, rfl, rfl⟩
      · exact hs hm
    · split at h
      · exact ⟨r', h, rfl, rfl⟩
      · rcases mem_cons.mp h with rfl | hm
        · exact ⟨r, by simp, rfl, rfl⟩
        · exact hs hm

def Unretired (sha256 : Bytes → Bytes) (s : SessionSupervisorLeaseStore) : Prop :=
  ∀ r ∈ s.paper, retiredPaperOwner sha256 s.acks r.token = false

lemma Change.unretired (hu : Unretired sha256 s) (hk : OwnersKept sha256 s call)
    (hc : Change sha256 s call next) : Unretired sha256 next := by
  cases hc with
  | same => exact hu
  | put r outcome valid idle unretired =>
    intro r' hr'
    have hp' := (mem_paper.mp hr').2
    rcases mem_paper_putRecord hr' with rfl | ⟨hr', -⟩
    · exact unretired hp'
    · exact hu r' hr'
  | remove =>
    exact fun r' hr' => hu r' (mem_paper_eraseRecord hr')
  | replace ct r found outcome valid hd unretired =>
    obtain ⟨hm, htoken⟩ := find_some hd
    intro r' hr'
    have hp' := (mem_paper.mp hr').2
    rcases mem_paper_putRecord hr' with rfl | ⟨hr', -⟩
    · by_cases hs : r'.token = ct
      · rcases (hk hp' found hd).2 hs with hfn | hf
        · have ho := hu found (mem_paper.mpr ⟨hm, hfn⟩)
          rwa [htoken, ← hs] at ho
        · exact hf
      · exact unretired hp' hs
    · exact hu r' (mem_paper_eraseRecord hr')
  | advance est r pv outcome hd same =>
    obtain ⟨hm, htoken⟩ := find_some hd
    intro r' hr'
    have hp' := (mem_paper.mp hr').2
    rcases mem_paper_putRecord hr' with rfl | ⟨hr', -⟩
    · have hf := hu pv
        (mem_paper.mpr ⟨hm, (isPaper_of_same same).symm.trans hp'⟩)
      rwa [htoken] at hf
    · exact hu r' hr'
  | sealGroup =>
    intro r' hr'
    obtain ⟨hr', hp'⟩ := mem_paper.mp hr'
    obtain ⟨r, hr, htoken, hp⟩ := exists_of_mem_sealRecords hr'
    rw [htoken]
    exact hu r (mem_paper.mpr ⟨hr, hp ▸ hp'⟩)
  | acknowledge =>
    simp [Unretired]

/-! ### Runs -/

lemma length_acks_putAck {a : SessionSupervisorPaperFinalizationAck}
    (h : s.ackOf a.finalizationId = none) : (s.putAck a).acks.length = s.acks.length + 1 := by
  have hk : s.acks.filter (fun a' => a'.finalizationId ≠ a.finalizationId) = s.acks := by
    apply filter_eq_self.mpr
    intro a' ha'
    simpa using List.find?_eq_none.mp h a' ha'
  simp only [putAck, orderedInsert_length]
  rw [hk]

/-- An acknowledgement is stored beside the others or none is. -/
lemma Change.acks_cases (hc : Change sha256 s call next) :
    next.acks = s.acks ∨ next.acks.length = s.acks.length + 1 := by
  cases hc with
  | acknowledge q receipt outcome ack =>
    right
    exact length_acks_putAck (s := s.purgePaper) ack.unknown
  | _ => exact .inl rfl

structure Invariant (sha256 : Bytes → Bytes) (s : SessionSupervisorLeaseStore) : Prop where
  sound : Sound s
  unretired : Unretired sha256 s

lemma Invariant.step (hs : Invariant sha256 s) (hk : OwnersKept sha256 s call) :
    Invariant sha256 (s.step sha256 call) := by
  obtain ⟨_, hc, hh⟩ := step_change sha256 s call
  refine ⟨(hc.sound hs.sound hk).of_holds hh, ?_⟩
  have hnext := hc.unretired hs.unretired hk
  rw [Unretired, paper, hh.1, hh.2]
  exact hnext

lemma Invariant.run {calls : List Call} (hs : Invariant sha256 s)
    (hr : Guarded.Run (SessionSupervisorLeaseStore.step sha256) (OwnersKept sha256) s calls) :
    Invariant sha256 (calls.foldl (SessionSupervisorLeaseStore.step sha256) s) :=
  hr.invariant hs fun _ _ hs hk => hs.step hk

lemma acks_step_le (s : SessionSupervisorLeaseStore) (call : Call) :
    (s.step sha256 call).acks = s.acks ∨ s.acks.length < (s.step sha256 call).acks.length := by
  obtain ⟨next, hc, hh⟩ := step_change sha256 s call
  rw [hh.2]
  exact hc.acks_cases.imp_right fun h => by omega

lemma acks_run_le (calls : List Call) (s : SessionSupervisorLeaseStore) :
    s.acks.length ≤ (calls.foldl (step sha256) s).acks.length := by
  induction calls generalizing s with
  | nil => exact le_rfl
  | cons call calls ih =>
    rcases @acks_step_le sha256 s call with heq | hl
    · exact heq ▸ ih _
    · exact hl.le.trans (ih _)

lemma Frozen.isOpen (hf : Frozen s next) (hs : Sound s) (ho : s.isOpen = true) :
    next.isOpen = true := by
  obtain ⟨r, hr, ht⟩ := isOpen_iff.mp ho
  obtain ⟨r', hr', -, hl⟩ := hf.kept r (mem_paper.mpr ⟨hr, (hs.bound r hr ht).1⟩)
  apply isOpen_of_mem (mem_paper.mp hr').1
  intro hnn
  rw [hnn] at hl
  cases hr : r.paperFinalizationState <;> simp_all [stateNumber]

/-- While a finalization is under way, and as long as no acknowledgement is stored, the owners are
frozen. -/
lemma frozen_run {calls : List Call} (hs : Invariant sha256 s) (ho : s.isOpen = true)
    (hr : Guarded.Run (step sha256) (OwnersKept sha256) s calls)
    (ha : (calls.foldl (step sha256) s).acks = s.acks) :
    Frozen s (calls.foldl (step sha256) s) := by
  induction calls generalizing s with
  | nil => exact Frozen.refl s
  | cons call calls ih =>
    have hl := @acks_run_le sha256 calls (s.step sha256 call)
    have hf : (s.step sha256 call).acks = s.acks := by
      rcases @acks_step_le sha256 s call with heq | hlt
      · exact heq
      · rw [foldl_cons] at ha
        rw [ha] at hl
        omega
    obtain ⟨next, hc, hh⟩ := step_change sha256 s call
    have hnext := hc.frozen hs.sound hr.1 ho (hh.2.symm.trans hf)
    have ht : Frozen s (s.step sha256 call) := by
      have hp : (s.step sha256 call).paper = next.paper := by rw [paper, hh.1, paper]
      exact hnext.trans (Frozen.of_paper hp)
    exact ht.trans (ih (hs.step hr.1) (ht.isOpen hs.sound ho) hr.2 (ha.trans hf.symm))

lemma retired_run {calls : List Call} (h : retiredPaperOwner sha256 s.acks token = true) :
    retiredPaperOwner sha256 (calls.foldl (step sha256) s).acks token = true := by
  induction calls generalizing s with
  | nil => exact h
  | cons call calls ih =>
    apply ih
    obtain ⟨_, hc, hh⟩ := step_change sha256 s call
    rw [hh.2]
    exact hc.retired h

lemma retired_of_acknowledged (hd : Digests sha256) (hk : OwnersKept sha256 s call)
    (ha : (s.step sha256 call).acks ≠ s.acks) (hr : r ∈ s.paper) :
    retiredPaperOwner sha256 (s.step sha256 call).acks r.token = true := by
  obtain ⟨_, hc, hh⟩ := step_change sha256 s call
  rw [hh.2] at ha ⊢
  cases hc with
  | acknowledge q receipt outcome ack =>
    refine retired_iff.mpr ⟨createdAck q receipt, acks_putAck.mpr (.inl rfl), ?_⟩
    exact ack.retired hd hk hr
  | _ => exact absurd rfl ha

/-- In every run whose replacements keep the owners: while a finalization is under way and no
acknowledgement is stored the owners are frozen; a call seals or purges a group as a whole; and the
tokens of an acknowledged group never come back as paper leases. -/
theorem finalization_freezes_and_retires (hdigests : Digests sha256) {calls : List Call}
    (hrun : Guarded.Run (step sha256) (OwnersKept sha256) {} calls) :
    let s := calls.foldl (step sha256) {}
    (∀ later, Guarded.Run (step sha256) (OwnersKept sha256) s later → s.isOpen = true →
        (later.foldl (step sha256) s).acks = s.acks → Frozen s (later.foldl (step sha256) s)) ∧
      (∀ call, OwnersKept sha256 s call → Whole s (s.step sha256 call)) ∧
      ∀ call later, OwnersKept sha256 s call → (s.step sha256 call).acks ≠ s.acks →
        Guarded.Run (step sha256) (OwnersKept sha256) (s.step sha256 call) later →
        ∀ r ∈ s.paper, ∀ r' ∈ (later.foldl (step sha256) (s.step sha256 call)).paper,
          r'.token ≠ r.token := by
  intro s
  have he : Invariant sha256 {} := ⟨sound_empty, by simp [Unretired, paper]⟩
  have hs : Invariant sha256 s := he.run hrun
  refine ⟨fun later hl ho ha => frozen_run hs ho hl ha, ?_, ?_⟩
  · intro call _
    obtain ⟨next, hc, hh⟩ := step_change sha256 s call
    have hw := hc.whole hs.sound
    have hp : (s.step sha256 call).paper = next.paper := by rw [paper, hh.1, paper]
    constructor
    · rw [hp]
      exact hw.sealed
    · rw [hp, hh.2]
      exact hw.purged
    · rw [hp]
      exact hw.once
  · intro call later hk ha hl r hr r' hr' ht
    have hrt := @retired_run sha256 _ r.token later (retired_of_acknowledged hdigests hk ha hr)
    have hf := ((hs.step hk).run hl).unretired r' hr'
    rw [ht, hrt] at hf
    cases hf

/-! ### Two replacements -/

/-- A paper lease, and a WATCH lease of another owner. -/
def paperLease : SessionSupervisorLeaseRecord where
  templateId := ascii "paper"
  issuer := ascii "root"
  token := ascii "paper-0123456789-0123456789"
  agentId := ascii "alpha"
  sessionId := ascii "one"
  ownerAccount := ascii "DU1"
  ownerExecutionDomain := ascii "paper"
  expiresAtMs := 100
  leaseGeneration := 1

def watchLease : SessionSupervisorLeaseRecord where
  templateId := ascii "watch"
  issuer := ascii "root"
  token := ascii "watch-0123456789-0123456789"
  agentId := ascii "beta"
  sessionId := ascii "two"
  expiresAtMs := 100
  leaseGeneration := 1

def recoveringLease : SessionSupervisorLeaseRecord :=
  { paperLease with recoveryOnly := true, paperFinalizationRequired := true }

/-- The paper lease at the begin of its finalization. -/
def fencedLease (sha256 : Bytes → Bytes) : SessionSupervisorLeaseRecord :=
  { recoveringLease with
    paperFinalizationState := .fencePending
    recoveryId := ascii "recovery"
    finalizationId := ascii "finalization"
    expectedOwnerSetSha256 := prefixedSha256 sha256 (canonicalOwnerSet sha256 [recoveringLease])
    expectedOwnerCount := 1
    ownerTokenSha256 := prefixedSha256 sha256 (recoveringLease.token ++ [newline]) }

def turnedLease : SessionSupervisorLeaseRecord :=
  { watchLease with
    templateId := ascii "paper"
    ownerAccount := ascii "DU2"
    ownerExecutionDomain := ascii "paper" }

def beginFinalization (sha256 : Bytes → Bytes) : List Call :=
  [.put paperLease .committed, .put watchLease .committed,
    .replace paperLease.token recoveringLease .committed,
    .advance paperLease.token .none (fencedLease sha256) .committed]

def putStore (records : List SessionSupervisorLeaseRecord) : SessionSupervisorLeaseStore where
  records := records
  sourceSize := some (projectedEncodedBytes { records := records })

/-- The store after the finalization has begun. -/
def fencedStore (sha256 : Bytes → Bytes) : SessionSupervisorLeaseStore :=
  putStore [fencedLease sha256, watchLease]

/-- A digest that tells no two texts apart. -/
def zeroes : Bytes → Bytes := fun _ => List.replicate 64 48

set_option maxRecDepth 10000 in
lemma putStore_reached : ([Call.put paperLease .committed, .put watchLease .committed].foldl
    (step zeroes) {}) = putStore [paperLease, watchLease] := by
  decide +kernel

set_option maxRecDepth 10000 in
lemma fencedStore_reached :
    (beginFinalization zeroes).foldl (step zeroes) {} = fencedStore zeroes := by
  decide +kernel

set_option maxRecDepth 10000 in
lemma replace_turnedLease :
    (fencedStore zeroes).perform zeroes (.replace watchLease.token turnedLease .committed) =
      (none, putStore [fencedLease zeroes, turnedLease]) := by
  decide +kernel

/-- After the finalization of the one paper lease has begun, a WATCH lease is replaced by a paper
lease of another account, and the owners have changed. -/
theorem not_frozen_turnedLease :
    let s := (beginFinalization zeroes).foldl (step zeroes) {}
    let call := Call.replace watchLease.token turnedLease .committed
    s.isOpen = true ∧ (s.perform zeroes call).1 = none ∧
      (s.step zeroes call).acks = s.acks ∧ ¬Frozen s (s.step zeroes call) := by
  dsimp only
  rw [fencedStore_reached, step, replace_turnedLease]
  refine ⟨rfl, rfl, rfl, ?_⟩
  intro hf
  have hm : turnedLease ∈ (putStore [fencedLease zeroes, turnedLease]).paper :=
    mem_paper.mpr ⟨by simp [putStore], rfl⟩
  obtain ⟨r, hr, howner, -⟩ := hf.known turnedLease hm
  have hr : r = fencedLease zeroes := mem_singleton.mp hr
  have he : ownerOf turnedLease ≠ ownerOf paperLease := by decide
  rw [hr] at howner
  exact he howner

set_option maxRecDepth 10000 in
/-- The finalization of the lease begins with its owner kept, and the WATCH lease is removed. -/
theorem finalization_freezes_and_retires_removed :
    let sha256 : Bytes → Bytes := fun _ => List.replicate 64 48
    let s := (beginFinalization sha256).foldl (step sha256) {}
    s.isOpen = true ∧ Frozen s (s.step sha256 (.remove watchLease.token .committed)) := by
  intro sha256 s
  have hd : Digests sha256 := fun _ => by decide
  have hs : s = fencedStore zeroes := fencedStore_reached
  have ho : s.isOpen = true := by
    rw [hs]
    rfl
  have hk : OwnersKept zeroes (([Call.put paperLease .committed, .put watchLease .committed]).foldl
      (step zeroes) {}) (.replace paperLease.token recoveringLease .committed) := by
    intro _ found hfn
    have hp : isPaper paperLease = true := by decide
    rw [putStore_reached] at hfn
    cases hfn
    exact ⟨fun _ => ⟨hp, rfl⟩, fun _ => .inl hp⟩
  have hr : Guarded.Run (step sha256) (OwnersKept sha256) {} (beginFinalization sha256) :=
    ⟨trivial, trivial, hk, trivial, trivial⟩
  refine ⟨ho, ?_⟩
  apply (finalization_freezes_and_retires hd hr).1 [.remove watchLease.token .committed]
  · exact ⟨trivial, trivial⟩
  · exact ho
  · decide +kernel

end SessionSupervisorLeaseStore

end Hepta
