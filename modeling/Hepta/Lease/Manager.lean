import Hepta.Library.Map

/-!
# Decision leases

`DecisionLeaseManager` grants one lease for each execution domain, account and instrument. An entry
outlives its lease, so that the next grant of its key goes on with the generations. A call reads the
clock once, and the reading may fail or lie before the last one.
-/

namespace Hepta

structure DecisionLeaseKey where
  executionDomain : String
  account : String
  instrument : String
  deriving DecidableEq, Repr

structure DecisionLeaseOwner where
  agentId : String := ""
  sessionId : String := ""
  deriving DecidableEq, Repr

structure DecisionLeaseCredential where
  fencingToken : Nat := 0
  generation : Nat := 0
  deriving DecidableEq, Repr

inductive DecisionLeaseStatus where
  | acquired
  | renewed
  | released
  | valid
  | busy
  | notFound
  | expired
  | ownerMismatch
  | staleFence
  | invalidArgument
  | clockFailure
  | fencingExhausted
  deriving DecidableEq, Repr

def DecisionLeaseStatus.statusName : DecisionLeaseStatus → String
  | acquired => "ACQUIRED"
  | renewed => "RENEWED"
  | released => "RELEASED"
  | valid => "VALID"
  | busy => "BUSY"
  | notFound => "NOT_FOUND"
  | expired => "EXPIRED"
  | ownerMismatch => "OWNER_MISMATCH"
  | staleFence => "STALE_FENCE"
  | invalidArgument => "INVALID_ARGUMENT"
  | clockFailure => "CLOCK_FAILURE"
  | fencingExhausted => "FENCING_EXHAUSTED"

structure DecisionLeaseResult where
  status : DecisionLeaseStatus := .invalidArgument
  credential : DecisionLeaseCredential := {}
  expiresAt : Int := 0
  deriving DecidableEq, Repr

def DecisionLeaseResult.succeeded (result : DecisionLeaseResult) : Bool :=
  result.status = .acquired || result.status = .renewed || result.status = .released ||
    result.status = .valid

structure DecisionLeaseEntry where
  owner : DecisionLeaseOwner := {}
  credential : DecisionLeaseCredential := {}
  expiresAt : Int := 0
  active : Bool := false
  deriving DecidableEq, Repr

namespace DecisionLeaseEntry

variable (entry : DecisionLeaseEntry)

def isExpired (now : Int) : Bool :=
  entry.active && decide (entry.expiresAt ≤ now)

/-- The lease ends; the entry keeps its credential. -/
def deactivate : DecisionLeaseEntry :=
  { entry with active := false, owner := {}, expiresAt := 0 }

def settled (now : Int) : DecisionLeaseEntry :=
  if entry.isExpired now then entry.deactivate else entry

def result (status : DecisionLeaseStatus) : DecisionLeaseResult :=
  { status, credential := entry.credential, expiresAt := entry.expiresAt }

def checkActive (owner : DecisionLeaseOwner) (credential : DecisionLeaseCredential) (now : Int) :
    DecisionLeaseEntry × DecisionLeaseResult :=
  if !entry.active then (entry, { status := .notFound })
  else if entry.isExpired now then (entry.deactivate, { status := .expired })
  else if entry.owner ≠ owner then (entry, { status := .ownerMismatch })
  else if entry.credential ≠ credential then (entry, { status := .staleFence })
  else (entry, entry.result .valid)

end DecisionLeaseEntry

/-- Up to 256 bytes without control characters, and not only blanks. -/
def validComponent (value : String) : Bool :=
  let bytes := value.toUTF8.data.toList
  decide (value ≠ "") && decide (bytes.length ≤ 256) &&
    bytes.all (fun byte => !(byte < 0x20 || byte == 0x7f)) &&
    bytes.any (fun byte => !(byte == 0x20 || (0x09 ≤ byte && byte ≤ 0x0d)))

def DecisionLeaseKey.valid (key : DecisionLeaseKey) : Bool :=
  validComponent key.executionDomain && validComponent key.account && validComponent key.instrument

def DecisionLeaseOwner.valid (owner : DecisionLeaseOwner) : Bool :=
  validComponent owner.agentId && validComponent owner.sessionId

def DecisionLeaseCredential.valid (credential : DecisionLeaseCredential) : Bool :=
  credential.fencingToken ≠ 0 && credential.generation ≠ 0

/-- The largest value of a token and of a generation. -/
def maxToken : Nat := 2 ^ 64 - 1

/-- `TimePoint::max()`, in nanoseconds. -/
def maxTimePoint : Int := 2 ^ 63 - 1

/-- `m_haveLastNow` and `m_lastNow` are one optional reading. -/
structure DecisionLeaseManager where
  entries : UMap DecisionLeaseKey DecisionLeaseEntry := ∅
  maxTtl : Int := 24 * 60 * 60 * 1000
  lastFencingToken : Nat := 0
  lastNow : Option Int := none

namespace DecisionLeaseManager

variable (m : DecisionLeaseManager)

def validTtl (ttl : Int) : Bool :=
  decide (0 < ttl) && decide (0 < m.maxTtl) && decide (ttl ≤ m.maxTtl)

/-- `ReadNowLocked`: a clock that throws has no reading, and one that runs backwards is refused. -/
def readNow (reading : Option Int) : Option (Int × DecisionLeaseManager) :=
  match reading with
  | none => none
  | some now =>
    if m.lastNow.any (fun last => now < last) then none else some (now, { m with lastNow := some now })

/-- `ComputeExpiryLocked`. The duration is a signed word of nanoseconds. -/
def computeExpiry (now ttl : Int) : Option Int :=
  if !m.validTtl ttl then none
  else
    let duration := (ttl * 1000000).bmod (2 ^ 64)
    if duration ≤ 0 ∨ now > maxTimePoint - duration then none else some (now + duration)

variable (key : DecisionLeaseKey)

/-- The entry of a key as `m_entries[key]` finds or makes it. -/
def entry : DecisionLeaseEntry :=
  (m.entries.lookup key).getD {}

def setEntry (entry : DecisionLeaseEntry) : DecisionLeaseManager :=
  { m with entries := m.entries.insert key entry }

variable (owner : DecisionLeaseOwner)

/-- `Acquire` once the clock is read and the expiry is known. -/
def acquireAt (now expiresAt : Int) : DecisionLeaseManager × DecisionLeaseResult :=
  let entry := (m.entry key).settled now
  if entry.active then (m.setEntry key entry, { status := .busy })
  else if entry.credential.generation = maxToken ∨ m.lastFencingToken = maxToken then
    (m.setEntry key entry, { status := .fencingExhausted })
  else
    let granted : DecisionLeaseEntry :=
      { owner, expiresAt
        credential :=
          { fencingToken := m.lastFencingToken + 1
            generation := entry.credential.generation + 1 }
        active := true }
    ({ m.setEntry key granted with lastFencingToken := m.lastFencingToken + 1 },
      granted.result .acquired)

def acquire (ttl : Int) (reading : Option Int) : DecisionLeaseManager × DecisionLeaseResult :=
  if !key.valid || !owner.valid || !m.validTtl ttl then (m, { status := .invalidArgument })
  else match m.readNow reading with
    | none => (m, { status := .clockFailure })
    | some (now, m) => match m.computeExpiry now ttl with
      | none => (m, { status := .invalidArgument })
      | some expiresAt => m.acquireAt key owner now expiresAt

variable (credential : DecisionLeaseCredential)

/-- What `Renew` and `Validate` share: the checks up to the entry, then `finish` for an entry that
passed. -/
def checked (reading : Option Int)
    (finish : DecisionLeaseManager → DecisionLeaseEntry → Int → DecisionLeaseResult →
      DecisionLeaseEntry × DecisionLeaseResult) :
    DecisionLeaseManager × DecisionLeaseResult :=
  match m.readNow reading with
  | none => (m, { status := .clockFailure })
  | some (now, m) => match m.entries.lookup key with
    | none => (m, { status := .notFound })
    | some found =>
      let (entry, result) := found.checkActive owner credential now
      if !result.succeeded then (m.setEntry key entry, result)
      else
        let (entry, result) := finish m entry now result
        (m.setEntry key entry, result)

def renew (ttl : Int) (reading : Option Int) : DecisionLeaseManager × DecisionLeaseResult :=
  if !key.valid || !owner.valid || !credential.valid || !m.validTtl ttl then
    (m, { status := .invalidArgument })
  else m.checked key owner credential reading fun m entry now _ =>
    match m.computeExpiry now ttl with
    | none => (entry, { status := .invalidArgument })
    | some expiresAt =>
      let renewed := { entry with expiresAt }
      (renewed, renewed.result .renewed)

def validate (reading : Option Int) : DecisionLeaseManager × DecisionLeaseResult :=
  if !key.valid || !owner.valid || !credential.valid then (m, { status := .invalidArgument })
  else m.checked key owner credential reading fun _ entry _ result => (entry, result)

def fences (entry : DecisionLeaseEntry) : Bool :=
  entry.active && decide (entry.owner = owner)

/-- `FenceOwner` ends the leases of an owner and counts them. -/
def fenceOwner : DecisionLeaseManager × Nat :=
  if !owner.valid then (m, 0)
  else
    ({ m with
        entries := m.entries.mapValues fun entry =>
          if fences owner entry then entry.deactivate else entry },
      (m.entries.entries.filter fun entry => fences owner entry.2).card)

end DecisionLeaseManager

/-! ### The leases of a manager -/

variable (entry : DecisionLeaseEntry)

def DecisionLeaseEntry.lease : Option (DecisionLeaseOwner × DecisionLeaseCredential) :=
  if entry.active then some (entry.owner, entry.credential) else none

@[simp] lemma DecisionLeaseEntry.lease_deactivate : entry.deactivate.lease = none := rfl

@[simp] lemma DecisionLeaseEntry.credential_deactivate : entry.deactivate.credential =
    entry.credential := rfl

@[simp] lemma DecisionLeaseEntry.credential_settled (now : Int) : (entry.settled now).credential =
    entry.credential := by
  unfold settled
  split <;> rfl

lemma DecisionLeaseEntry.lease_settled (now : Int) : (entry.settled now).lease = none ∨
    (entry.settled now).lease = entry.lease := by
  unfold settled
  split
  · exact .inl rfl
  · exact .inr rfl

lemma DecisionLeaseEntry.settled_of_active {entry : DecisionLeaseEntry} {now : Int}
    (h : (entry.settled now).active = true) :
    entry.settled now = entry ∧ entry.active = true ∧ now < entry.expiresAt := by
  unfold settled at *
  split at h
  · cases h
  rename_i hl
  rw [if_neg hl]
  refine ⟨rfl, h, ?_⟩
  simpa [isExpired, h] using hl

namespace DecisionLeaseManager

variable {m m' : DecisionLeaseManager} {key : DecisionLeaseKey} {owner : DecisionLeaseOwner}
  {credential : DecisionLeaseCredential} {ttl : Int} {reading : Option Int}

def lease (m : DecisionLeaseManager) (key : DecisionLeaseKey) :
    Option (DecisionLeaseOwner × DecisionLeaseCredential) :=
  (m.entry key).lease

def generation (m : DecisionLeaseManager) (key : DecisionLeaseKey) : Nat :=
  (m.entry key).credential.generation

@[simp] lemma entry_setEntry (m : DecisionLeaseManager) (key key' : DecisionLeaseKey)
    (entry : DecisionLeaseEntry) :
    (m.setEntry key entry).entry key' = if key' = key then entry else m.entry key' := by
  unfold setEntry DecisionLeaseManager.entry
  by_cases hk : key' = key
  · subst hk
    simp
  · simp [hk, Finmap.lookup_insert_of_ne]

/-- At most the lease of a key has ended. -/
structure Faded (m : DecisionLeaseManager) (key : DecisionLeaseKey) (m' : DecisionLeaseManager) :
    Prop where
  token : m'.lastFencingToken = m.lastFencingToken
  generation : ∀ key', m'.generation key' = m.generation key'
  other : ∀ key', key' ≠ key → m'.lease key' = m.lease key'
  lease : m'.lease key = none ∨ m'.lease key = m.lease key

lemma Faded.refl (m : DecisionLeaseManager) (key : DecisionLeaseKey) : m.Faded key m where
  token := rfl
  generation _ := rfl
  other _ _ := rfl
  lease := .inr rfl

lemma Faded.setEntry (m : DecisionLeaseManager) {entry : DecisionLeaseEntry}
    (hl : entry.lease = none ∨ entry.lease = m.lease key)
    (hg : entry.credential.generation = m.generation key) :
    m.Faded key (m.setEntry key entry) where
  token := rfl
  generation key' := by
    unfold DecisionLeaseManager.generation at *
    by_cases hk : key' = key <;> simp [hk, hg]
  other key' hk := by simp [DecisionLeaseManager.lease, hk]
  lease := by simpa [DecisionLeaseManager.lease] using hl

lemma readNow_eq {now : Int} (h : m.readNow reading = some (now, m')) :
    reading = some now ∧ m' = { m with lastNow := some now } := by
  cases reading with
  | none => simp [readNow] at h
  | some =>
    simp only [readNow] at h
    split at h
    · cases h
    · simp only [Option.some.injEq, Prod.mk.injEq] at h
      exact ⟨by rw [h.1], by rw [← h.2, h.1]⟩

inductive Acquires (m : DecisionLeaseManager) (key : DecisionLeaseKey) (owner : DecisionLeaseOwner)
    (reading : Option Int) : DecisionLeaseManager × DecisionLeaseResult → Prop where
  | refused {m' : DecisionLeaseManager} {status : DecisionLeaseStatus} (h : m.Faded key m')
      (hstatus : status ∈ [.invalidArgument, .clockFailure, .fencingExhausted]) :
      Acquires m key owner reading (m', { status })
  | busy {m' : DecisionLeaseManager} {now : Int} (h : m.Faded key m') (hreading : reading = some now)
      (hactive : (m.entry key).active = true) (hlive : now < (m.entry key).expiresAt)
      (hlease : m'.lease key = m.lease key) :
      Acquires m key owner reading (m', { status := .busy })
  | granted {m' : DecisionLeaseManager} {credential : DecisionLeaseCredential} {expiresAt : Int}
      (howner : owner.valid = true)
      (htoken : credential.fencingToken = m.lastFencingToken + 1)
      (hgeneration : credential.generation = m.generation key + 1)
      (hlast : m'.lastFencingToken = m.lastFencingToken + 1)
      (hlease : m'.lease key = some (owner, credential))
      (hnew : m'.generation key = credential.generation)
      (hother : ∀ key', key' ≠ key →
        m'.lease key' = m.lease key' ∧ m'.generation key' = m.generation key') :
      Acquires m key owner reading (m', { status := .acquired, credential, expiresAt })

lemma acquireAt_acquires (m : DecisionLeaseManager) (key : DecisionLeaseKey)
    (ho : owner.valid = true) (now expiresAt : Int) :
    m.Acquires key owner (some now) (m.acquireAt key owner now expiresAt) := by
  unfold acquireAt
  dsimp only
  split_ifs with hactive hf
  · obtain ⟨hs, hactive, hl⟩ := DecisionLeaseEntry.settled_of_active hactive
    rw [hs]
    exact .busy (.setEntry m (.inr rfl) rfl) rfl hactive hl (by simp [DecisionLeaseManager.lease])
  · exact .refused (.setEntry m (DecisionLeaseEntry.lease_settled _ now) (by simp; rfl)) (by simp)
  · refine .granted ho rfl (by simp; rfl) rfl ?_ ?_ fun key' hk => ?_
    · simp [DecisionLeaseManager.lease, DecisionLeaseManager.entry, setEntry,
        DecisionLeaseEntry.lease]
    · simp [DecisionLeaseManager.generation, DecisionLeaseManager.entry, setEntry]
    · simp [DecisionLeaseManager.lease, DecisionLeaseManager.generation,
        DecisionLeaseManager.entry, setEntry, Finmap.lookup_insert_of_ne _ hk]

lemma acquires (m : DecisionLeaseManager) (key : DecisionLeaseKey) (owner : DecisionLeaseOwner)
    (ttl : Int) (reading : Option Int) :
    m.Acquires key owner reading (m.acquire key owner ttl reading) := by
  unfold acquire
  split
  · exact .refused (.refl m key) (by simp)
  rename_i hv
  have ho : owner.valid = true := by
    simp only [Bool.or_eq_true, Bool.not_eq_true', not_or, Bool.not_eq_false] at hv
    exact hv.1.2
  split
  · exact .refused (.refl m key) (by simp)
  rename_i now m₁ hr
  obtain ⟨rfl, rfl⟩ := readNow_eq hr
  split
  · exact .refused ⟨rfl, fun _ => rfl, fun _ _ => rfl, .inr rfl⟩ (by simp)
  rename_i expiresAt he
  have h := acquireAt_acquires { m with lastNow := some now } key ho now expiresAt
  generalize acquireAt _ key owner now expiresAt = r at h
  -- the reading that is kept is in no lease
  cases h with
  | refused h hs => exact .refused ⟨h.token, h.generation, h.other, h.lease⟩ hs
  | busy h hd ha hlv hl =>
    exact .busy ⟨h.token, h.generation, h.other, h.lease⟩ hd ha hlv hl
  | granted ho ht hg hls hl hw hh =>
    exact .granted ho ht hg hls hl hw hh

/-- What `CheckActiveLocked` finds. -/
inductive EntryChecked (entry : DecisionLeaseEntry) (owner : DecisionLeaseOwner)
    (credential : DecisionLeaseCredential) : DecisionLeaseEntry × DecisionLeaseResult → Prop where
  | inactive (h : entry.lease = none) :
      EntryChecked entry owner credential (entry, { status := .notFound })
  | expired : EntryChecked entry owner credential (entry.deactivate, { status := .expired })
  | mismatch : EntryChecked entry owner credential (entry, { status := .ownerMismatch })
  | stale (h : entry.lease = some (owner, entry.credential)) (hne : entry.credential ≠ credential) :
      EntryChecked entry owner credential (entry, { status := .staleFence })
  | valid (h : entry.lease = some (owner, credential)) (hsame : entry.credential = credential) :
      EntryChecked entry owner credential (entry, entry.result .valid)

lemma entryChecked (entry : DecisionLeaseEntry) (owner : DecisionLeaseOwner)
    (credential : DecisionLeaseCredential) (now : Int) :
    EntryChecked entry owner credential (entry.checkActive owner credential now) := by
  unfold DecisionLeaseEntry.checkActive
  split_ifs with hi he ho hc
  · exact .inactive (by simpa [DecisionLeaseEntry.lease] using hi)
  · exact .expired
  · exact .mismatch
  · exact .stale (by simp_all [DecisionLeaseEntry.lease]) hc
  · rw [not_not] at ho hc
    exact .valid (by simp_all [DecisionLeaseEntry.lease]) hc

/-- What the checks of an entry say about its lease. -/
structure Checks (m : DecisionLeaseManager) (key : DecisionLeaseKey) (owner : DecisionLeaseOwner)
    (credential : DecisionLeaseCredential) (r : DecisionLeaseManager × DecisionLeaseResult) :
    Prop where
  faded : m.Faded key r.1
  ended : r.2.status = .expired ∨ r.2.status = .notFound → r.1.lease key = none
  stale : r.2.status = .staleFence → ∃ held, r.1.lease key = some (owner, held) ∧ held ≠ credential
  held : r.2.succeeded = true → m.lease key = some (owner, credential) ∧
    r.1.lease key = some (owner, credential) ∧ r.2.credential = credential
  status : r.2.status ≠ .busy ∧ r.2.status ≠ .acquired

variable (m)

/-- A refusal before any entry is read. -/
lemma Checks.refused {status : DecisionLeaseStatus}
    (h : status = .invalidArgument ∨ status = .clockFailure) :
    m.Checks key owner credential (m, { status }) where
  faded := .refl m key
  ended := by rcases h with rfl | rfl <;> simp
  stale := by rcases h with rfl | rfl <;> simp
  held := by rcases h with rfl | rfl <;> simp [DecisionLeaseResult.succeeded]
  status := by rcases h with rfl | rfl <;> simp

lemma checked_checks (key : DecisionLeaseKey)
    (owner : DecisionLeaseOwner) (credential : DecisionLeaseCredential) (reading : Option Int)
    {finish : DecisionLeaseManager → DecisionLeaseEntry → Int → DecisionLeaseResult →
      DecisionLeaseEntry × DecisionLeaseResult}
    (hfn : ∀ m entry now,
      let r := finish m entry now (entry.result .valid)
      r.1.lease = entry.lease ∧ r.1.credential = entry.credential ∧
        (r.2.succeeded = true → r.2.credential = entry.credential) ∧
        r.2.status ∈ [.renewed, .valid, .invalidArgument]) :
    m.Checks key owner credential (m.checked key owner credential reading finish) := by
  unfold checked
  split
  · exact .refused m (.inr rfl)
  rename_i now m₁ hr
  obtain ⟨-, rfl⟩ := readNow_eq hr
  have hr : m.Faded key { m with lastNow := some now } :=
    ⟨rfl, fun _ => rfl, fun _ _ => rfl, .inr rfl⟩
  dsimp only
  split
  · rename_i hm
    have hnn : m.lease key = none := by
      rw [DecisionLeaseManager.lease, DecisionLeaseManager.entry, hm]
      rfl
    exact ⟨hr, fun _ => hnn, by simp, by simp [DecisionLeaseResult.succeeded], by simp⟩
  · rename_i found hfo
    have hen : m.entry key = found := by rw [DecisionLeaseManager.entry, hfo]; rfl
    have hl : m.lease key = found.lease := by rw [DecisionLeaseManager.lease, hen]
    have hgn : m.generation key = found.credential.generation := by
      rw [DecisionLeaseManager.generation, hen]
    -- the entry that is stored back has the lease it had or none
    have hs : ∀ entry : DecisionLeaseEntry, entry.lease = none ∨ entry.lease = found.lease →
        entry.credential = found.credential →
        m.Faded key (setEntry { m with lastNow := some now } key entry) := by
      intro entry hen hc
      have h : Faded { m with lastNow := some now } key (setEntry _ key entry) :=
        .setEntry _ (by rw [← hl] at hen; exact hen)
          (by rw [hc, ← hgn]; rfl)
      exact ⟨h.token, h.generation, h.other, h.lease⟩
    have hh := entryChecked found owner credential now
    generalize found.checkActive owner credential now = r at hh
    cases hh with
    | inactive h =>
      change m.Checks key owner credential (setEntry _ key found, { status := .notFound })
      exact ⟨hs found (.inl h) rfl, fun _ => by simpa [DecisionLeaseManager.lease] using h,
        by simp, by simp [DecisionLeaseResult.succeeded], by simp⟩
    | expired =>
      change m.Checks key owner credential (setEntry _ key found.deactivate, { status := .expired })
      exact ⟨hs _ (.inl rfl) rfl, fun _ => by simp [DecisionLeaseManager.lease], by simp,
        by simp [DecisionLeaseResult.succeeded], by simp⟩
    | mismatch =>
      change m.Checks key owner credential (setEntry _ key found, { status := .ownerMismatch })
      exact ⟨hs found (.inr rfl) rfl, by simp, by simp,
        by simp [DecisionLeaseResult.succeeded], by simp⟩
    | stale h hne =>
      change m.Checks key owner credential (setEntry _ key found, { status := .staleFence })
      exact ⟨hs found (.inr rfl) rfl, by simp,
        fun _ => ⟨_, by simpa [DecisionLeaseManager.lease] using h, hne⟩,
        by simp [DecisionLeaseResult.succeeded], by simp⟩
    | valid h hsm =>
      have hp : (found.result .valid).succeeded = true := rfl
      simp only [hp, Bool.not_true, Bool.false_eq_true, if_false]
      have hf := hfn { m with lastNow := some now } found now
      generalize finish _ found now (found.result .valid) = r at hf
      obtain ⟨hk, hc, hg, hss⟩ := hf
      refine ⟨hs _ (.inr hk) hc, fun he => ?_, fun ht => ?_,
        fun hsc => ⟨hl.trans h, ?_, (hg hsc).trans hsm⟩, ?_⟩
      · dsimp only at he
        rcases he with he | he <;> simp [he] at hss
      · dsimp only at ht
        simp [ht] at hss
      · simp [DecisionLeaseManager.lease, hk, h]
      · constructor <;> intro ho <;> dsimp only at ho <;> simp [ho] at hss

lemma renew_checks (key : DecisionLeaseKey) (owner : DecisionLeaseOwner)
    (credential : DecisionLeaseCredential) (ttl : Int) (reading : Option Int) :
    m.Checks key owner credential (m.renew key owner credential ttl reading) := by
  unfold renew
  split
  · exact .refused m (.inl rfl)
  apply checked_checks
  intro m entry now
  dsimp only
  split <;> simp [DecisionLeaseEntry.lease, DecisionLeaseEntry.result,
    DecisionLeaseResult.succeeded]

lemma validate_checks (key : DecisionLeaseKey)
    (owner : DecisionLeaseOwner) (credential : DecisionLeaseCredential) (reading : Option Int) :
    m.Checks key owner credential (m.validate key owner credential reading) := by
  unfold validate
  split
  · exact .refused m (.inl rfl)
  · apply checked_checks
    intro m entry now
    simp [DecisionLeaseEntry.result]

lemma lease_fenceOwner (ho : owner.valid = true) (key : DecisionLeaseKey) :
    (m.fenceOwner owner).1.lease key = (m.lease key).filter fun lease => lease.1 ≠ owner := by
  rw [fenceOwner, if_neg (by simp [ho]), lease, lease, entry, entry]
  rw [UMap.lookup_mapValues]
  cases m.entries.lookup key with
  | none => rfl
  | some found =>
    by_cases hactive : found.active = true
    · by_cases hsame : found.owner = owner <;>
        simp [fences, DecisionLeaseEntry.lease, hactive, hsame, DecisionLeaseEntry.deactivate,
          Option.filter_some]
    · simp [fences, DecisionLeaseEntry.lease, hactive]

lemma generation_fenceOwner (owner : DecisionLeaseOwner)
    (key : DecisionLeaseKey) : (m.fenceOwner owner).1.generation key = m.generation key := by
  unfold fenceOwner
  split
  · rfl
  rw [generation, generation, entry, entry, UMap.lookup_mapValues]
  cases m.entries.lookup key with
  | none => rfl
  | some =>
    rw [Option.map_some, Option.getD_some, Option.getD_some]
    split <;> rfl

lemma lastFencingToken_fenceOwner (owner : DecisionLeaseOwner) :
    (m.fenceOwner owner).1.lastFencingToken = m.lastFencingToken := by
  unfold fenceOwner
  split <;> rfl

/-! ### What every call keeps -/

variable {m}

/-- Tokens and generations do not go back, and a lease that was not there before has a new token. -/
structure Kept (m m' : DecisionLeaseManager) : Prop where
  token : m.lastFencingToken ≤ m'.lastFencingToken
  generation : ∀ key, m.generation key ≤ m'.generation key
  lease : ∀ key lease, m'.lease key = some lease → m.lease key = some lease ∨
    m.lastFencingToken < lease.2.fencingToken ∧ lease.2.fencingToken ≤ m'.lastFencingToken

lemma Kept.refl (m : DecisionLeaseManager) : Kept m m :=
  ⟨le_rfl, fun _ => le_rfl, fun _ _ h => .inl h⟩

lemma Kept.trans {m₁ m₂ m₃ : DecisionLeaseManager} (h₁ : Kept m₁ m₂) (h₂ : Kept m₂ m₃) :
    Kept m₁ m₃ where
  token := h₁.token.trans h₂.token
  generation key := (h₁.generation key).trans (h₂.generation key)
  lease key lease h := by
    rcases h₂.lease key lease h with ho | ⟨hw, hl⟩
    · rcases h₁.lease key lease ho with ho | ⟨hw, hl⟩
      · exact .inl ho
      · exact .inr ⟨hw, hl.trans h₂.token⟩
    · exact .inr ⟨h₁.token.trans_lt hw, hl⟩

lemma Faded.kept (h : m.Faded key m') : Kept m m' where
  token := h.token.ge
  generation key' := (h.generation key').ge
  lease key' lease hlease := by
    by_cases hk : key' = key
    · subst hk
      rcases h.lease with hnn | hs
      · simp [hnn] at hlease
      · exact .inl (hs ▸ hlease)
    · exact .inl (h.other key' hk ▸ hlease)

lemma Acquires.kept {r : DecisionLeaseManager × DecisionLeaseResult}
    (h : m.Acquires key owner reading r) : Kept m r.1 := by
  cases h with
  | refused h => exact h.kept
  | busy h => exact h.kept
  | granted how ht hg hs hl hw ho =>
    refine ⟨by dsimp only; omega, fun key' => ?_, fun key' lease h => ?_⟩
    · by_cases hk : key' = key
      · subst hk
        dsimp only
        omega
      · exact (ho key' hk).2.ge
    · by_cases hk : key' = key
      · subst hk
        obtain rfl : (owner, _) = lease := Option.some.inj (hl.symm.trans h)
        dsimp only
        exact .inr (by omega)
      · exact .inl ((ho key' hk).1 ▸ h)

lemma fenceOwner_kept (m : DecisionLeaseManager) (owner : DecisionLeaseOwner) :
    Kept m (m.fenceOwner owner).1 := by
  refine ⟨(lastFencingToken_fenceOwner m owner).ge, fun key => (generation_fenceOwner m owner key).ge,
    fun key lease h => .inl ?_⟩
  by_cases ho : owner.valid = true
  · rw [lease_fenceOwner m ho] at h
    exact (Option.filter_eq_some_iff.mp h).1
  · rw [fenceOwner, if_pos (by simpa using ho)] at h
    exact h

end DecisionLeaseManager

end Hepta
