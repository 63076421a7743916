import Hepta.Safety.Quiescence

/-!
# Recovery ingress fences

An owner is put into recovery-only mode under a fence and resumed by a release that names the fence.
Replay checks both records again, in the order of the file. As long as no such record is overtaken
or lost, the fences of an owner only rise, over every restart, and replay accepts what the
operations wrote.
-/

namespace Hepta

open Finmap List OmsJournal RequestRecord Hepta.System

/-! ### The fences that the records describe -/

namespace FenceState

/-- The owner is recovery-only under at least this fence, or was resumed from at least it. -/
def Stands (fences : FenceState) (key : String) (fence : UInt64) : Prop :=
  (∃ held, fences.recoveryOnly.lookup key = some held ∧ fence ≤ held) ∨
    ∃ resumed, fences.resumed.lookup key = some resumed ∧ fence ≤ resumed

/-- A recovery-only owner has not been resumed from its fence. -/
def Rising (fences : FenceState) : Prop :=
  ∀ key held resumed, fences.recoveryOnly.lookup key = some held →
    fences.resumed.lookup key = some resumed → resumed < held

end FenceState

namespace Coordinator

variable {fences : FenceState} {event : OmsJournalEvent}

inductive FenceChange (event : OmsJournalEvent) (fences : FenceState) : FenceState → Prop
  | none : FenceChange event fences fences
  | ingress (fence : UInt64) (type : event.eventType = .sessionOwnerRecoveryOnly)
      (fresh : (fences.resumed.lookup (ownerKey event.agentId event.traceId)).any (fence ≤ ·) = false) :
      FenceChange event fences { fences with
        recoveryOnly := fences.recoveryOnly.insert (ownerKey event.agentId event.traceId) fence }
  | resume (fence : UInt64) (type : event.eventType = .sessionOwnerFenceRelease)
      (named : userRecoveryFence event.status = some (some fence))
      (held : fences.recoveryOnly.lookup (ownerKey event.agentId event.traceId) = some fence) :
      FenceChange event fences { fences with
        resumed := fences.resumed.insert (ownerKey event.agentId event.traceId) fence
        recoveryOnly := fences.recoveryOnly.erase (ownerKey event.agentId event.traceId) }
  | halt (terminal : Bool) (type : event.eventType = .paperTerminalFence) :
      FenceChange event fences { fences with terminal := terminal }

lemma fenceStep_change (fences : FenceState) (event : OmsJournalEvent) :
    FenceChange event fences (fenceStep fences event) := by
  unfold fenceStep
  simp only []
  split_ifs with hm
  · exact .none
  split <;> rename_i ht
  · split
    · exact .none
    rename_i fence _
    by_cases hs : (fences.resumed.lookup (ownerKey event.agentId event.traceId)).any
        (fence ≤ ·) = true
    · rw [if_pos hs]
      exact .none
    · rw [if_neg hs]
      exact .ingress fence ht (by simpa using hs)
  · split
    · rename_i fence hf
      by_cases hh : fences.recoveryOnly.lookup (ownerKey event.agentId event.traceId) =
          some fence ∧ (!fences.terminal) = true
      · rw [if_pos hh]
        exact .resume fence ht hf hh.1
      · rw [if_neg hh]
        exact .none
    · exact .none
  · exact .halt _ ht
  · exact .none

namespace FenceChange

variable {fences' : FenceState} {key : String} {fence : UInt64}

variable (h : FenceChange event fences fences')

include h

lemma rising (hs : fences.Rising) : fences'.Rising := by
  cases h with
  | none => exact hs
  | ingress fence type fresh =>
    intro key held resumed hh hr
    by_cases hk : key = ownerKey event.agentId event.traceId
    · subst hk
      rw [lookup_insert, Option.some.injEq] at hh
      subst hh
      rw [hr] at fresh
      simpa using fresh
    · rw [lookup_insert_of_ne _ hk] at hh
      exact hs key held resumed hh hr
  | resume fence type named held =>
    intro key held resumed hh hr
    by_cases hk : key = ownerKey event.agentId event.traceId
    · subst hk
      simp [lookup_erase] at hh
    · rw [lookup_erase_ne hk] at hh
      rw [lookup_insert_of_ne _ hk] at hr
      exact hs key held resumed hh hr
  | halt => exact hs

lemma stands_before (ht : event.eventType ≠ .sessionOwnerRecoveryOnly)
    (hs : fences'.Stands key fence) : fences.Stands key fence := by
  cases h with
  | none => exact hs
  | ingress _ type => exact absurd type ht
  | resume named type _ held =>
    by_cases hk : key = ownerKey event.agentId event.traceId
    · subst hk
      rcases hs with ⟨_, hh, -⟩ | ⟨resumed, hr, hl⟩
      · simp [lookup_erase] at hh
      · rw [lookup_insert, Option.some.injEq] at hr
        exact .inl ⟨named, held, hr ▸ hl⟩
    · simpa only [FenceState.Stands, lookup_erase_ne hk, lookup_insert_of_ne _ hk] using hs
  | halt => exact hs

lemma stands (hrs : fences.Rising) (hi : event.eventType ≠ .sessionOwnerRecoveryOnly)
    (hs : fences.Stands key fence) : fences'.Stands key fence := by
  cases h with
  | none => exact hs
  | ingress _ type => exact absurd type hi
  | resume named type _ held =>
    by_cases hk : key = ownerKey event.agentId event.traceId
    · subst hk
      refine .inr ⟨named, lookup_insert _, ?_⟩
      rcases hs with ⟨_, hh, hl⟩ | ⟨resumed, hr, hl⟩
      · rw [held, Option.some.injEq] at hh
        exact hh ▸ hl
      · exact UInt64.le_trans hl (UInt64.le_of_lt (hrs _ _ _ held hr))
    · simpa only [FenceState.Stands, lookup_erase_ne hk, lookup_insert_of_ne _ hk] using hs
  | halt => exact hs

lemma resumed (hs : fences.Rising) (hr : fences.resumed.lookup key = some fence) : ∃
    fence', fences'.resumed.lookup key = some fence' ∧ fence ≤ fence' := by
  cases h with
  | none => exact ⟨fence, hr, UInt64.le_refl _⟩
  | ingress => exact ⟨fence, hr, UInt64.le_refl _⟩
  | resume named type _ held =>
    by_cases hk : key = ownerKey event.agentId event.traceId
    · subst hk
      exact ⟨named, lookup_insert _, UInt64.le_of_lt (hs _ _ _ held hr)⟩
    · exact ⟨fence, by rwa [lookup_insert_of_ne _ hk], UInt64.le_refl _⟩
  | halt => exact ⟨fence, hr, UInt64.le_refl _⟩

end FenceChange

variable (events : List OmsJournalEvent)

lemma rising_foldFences : (foldFences events).Rising := by
  refine foldlRecOn events fenceStep (b := {}) (motive := FenceState.Rising) ?_ ?_
  · intro key held resumed hh
    simp at hh
  · exact fun fences h event _ => (fenceStep_change fences event).rising h

lemma foldFences_append (front back : List OmsJournalEvent) :
    foldFences (front ++ back) = back.foldl fenceStep (foldFences front) := foldl_append ..

lemma stands_fenceStep {l : List OmsJournalEvent} {e : OmsJournalEvent} {key : String}
    {fence : UInt64} (ht : e.eventType ≠ .sessionOwnerRecoveryOnly)
    (h : (foldFences l).Stands key fence) : (fenceStep (foldFences l) e).Stands key fence :=
  (fenceStep_change _ e).stands (rising_foldFences _) ht h

lemma stands_of_append {front back : List OmsJournalEvent} {key : String} {fence : UInt64}
    (hc : ∀ e ∈ back, e.eventType ≠ .sessionOwnerRecoveryOnly)
    (h : (foldFences (front ++ back)).Stands key fence) : (foldFences front).Stands key fence := by
  rw [foldFences_append] at h
  induction back using reverseRecOn with
  | nil => exact h
  | append_singleton back e ih =>
    rw [foldl_append] at h
    refine ih (fun b hb => hc b (mem_append_left _ hb)) ?_
    exact (fenceStep_change _ e).stands_before (hc e (by simp)) h

lemma resumed_of_append {front back : List OmsJournalEvent}
    (hb : ∀ e ∈ back, e.eventType ≠ .sessionOwnerFenceRelease) :
    (foldFences (front ++ back)).resumed = (foldFences front).resumed := by
  rw [foldFences_append]
  refine foldlRecOn back fenceStep (motive := fun fences : FenceState =>
    fences.resumed = (foldFences front).resumed) rfl fun fences h event hm => ?_
  rw [← h]
  have hc := fenceStep_change fences event
  generalize fenceStep fences event = fences' at hc ⊢
  cases hc with
  | none | ingress | halt => rfl
  | resume _ type => exact absurd type (hb event hm)

lemma release_of_resumed {events : List OmsJournalEvent} {key : String} {fence : UInt64}
    (h : (foldFences events).resumed.lookup key = some fence) :
    ∃ e ∈ events, e.eventType = .sessionOwnerFenceRelease ∧
      ownerKey e.agentId e.traceId = key ∧ userRecoveryFence e.status = some (some fence) := by
  refine foldlRecOn events fenceStep (b := {}) (motive := fun fences : FenceState =>
    fences.resumed.lookup key = some fence → ∃ e ∈ events,
      e.eventType = .sessionOwnerFenceRelease ∧ ownerKey e.agentId e.traceId = key ∧
        userRecoveryFence e.status = some (some fence)) (by simp) ?_ h
  intro fences ih event hm hr
  have hc := fenceStep_change fences event
  generalize fenceStep fences event = fences' at hc hr
  cases hc with
  | none => exact ih hr
  | ingress => exact ih hr
  | resume named type hnm =>
    by_cases hk : key = ownerKey event.agentId event.traceId
    · subst hk
      rw [lookup_insert, Option.some.injEq] at hr
      exact ⟨event, hm, type, rfl, hr ▸ hnm⟩
    · rw [lookup_insert_of_ne _ hk] at hr
      exact ih hr
  | halt => exact ih hr

/-! ### What replay checks -/

/-- The fences, and whether replay has taken every record so far. -/
def readStep (read : FenceState × Bool) (event : OmsJournalEvent) : FenceState × Bool :=
  (fenceStep read.1 event, read.2 && admits read.1 event)

def foldRead : FenceState × Bool := events.foldl readStep ({}, true)

lemma readStep_of_not_isIngress (h : isIngress event.eventType = false) (read : FenceState × Bool) :
    readStep read event = read := by
  have ha : admits read.1 event = true := by
    unfold admits
    simp only []
    split_ifs
    · rfl
    · cases heq : event.eventType <;> simp_all [isIngress]
  rw [readStep, fenceStep_of_not_isIngress h, ha, Bool.and_true]

lemma foldl_readStep_fst (read : FenceState × Bool) :
    (events.foldl readStep read).1 = events.foldl fenceStep read.1 := by
  induction events generalizing read with
  | nil => rfl
  | cons event events ih => rw [foldl_cons, foldl_cons, ih]; rfl

lemma foldRead_fst : (foldRead events).1 = foldFences events :=
  foldl_readStep_fst events _

/-- What replay takes with more records behind, it takes without them. -/
lemma foldRead_of_append {front back : List OmsJournalEvent}
    (h : (foldRead (front ++ back)).2 = true) : (foldRead front).2 = true := by
  rw [foldRead, foldl_append] at h
  induction back using reverseRecOn with
  | nil => exact h
  | append_singleton back e ih =>
    rw [foldl_append] at h
    simp only [foldl_cons, foldl_nil, readStep, Bool.and_eq_true] at h
    exact ih h.1

variable {c : Coordinator} {tsMs : Int}

/-- What replay takes blocks nothing. -/
lemma not_mem_ingressBlocks_applyRecoveredEvent (ha : admits c.fences event = true)
    (hr : event.Regular) (h : c.mutationBlockReason ∉ ingressBlocks) :
    (c.applyRecoveredEvent event).mutationBlockReason ∉ ingressBlocks := by
  have hb : ∀ rs ∈ replayBlocks, rs ∉ ingressBlocks := by decide
  cases blockStep_applyRecoveredEvent c event with
  | kept _ rs => rwa [rs]
  | lifted _ _ rs =>
    rw [rs]
    decide
  | failed failed _ rs =>
    have hp := hr.projection failed.1 failed.2
    simp only [isProjectionFailureReason, Bool.or_eq_true, decide_eq_true_eq] at hp
    rcases hp with (hc | hc) | hc <;> rw [rs (by simp [hc]), hc] <;> decide
  | blocked _ rs => exact hb _ rs
  | refused refused =>
    rw [ha] at refused
    simp at refused

lemma not_mem_ingressBlocks_replay {events : List OmsJournalEvent} (hr : (foldRead events).2 = true)
    (hg : ∀ e ∈ events, e.Regular) : (replay events).mutationBlockReason ∉ ingressBlocks := by
  induction events using reverseRecOn with
  | nil => decide
  | append_singleton events event ih =>
    have ha : admits (replay events).fences event = true := by
      rw [foldRead, foldl_append] at hr
      simp only [foldl_cons, foldl_nil, readStep, Bool.and_eq_true] at hr
      rw [fences_replay, ← foldRead_fst]
      exact hr.2
    have hb := ih (foldRead_of_append hr) fun e he => hg e (mem_append_left _ he)
    rw [replay, foldl_append]
    exact not_mem_ingressBlocks_applyRecoveredEvent ha (hg event (by simp)) hb

/-- The record of an accepted ingress is taken. -/
lemma admits_recoveryOnly {agentId sessionId tid : String} {fence : UInt64}
    (hp : fence ≠ 0)
    (hf : (fences.resumed.lookup (ownerKey agentId sessionId)).any (fence ≤ ·) = false) :
    admits fences (recoveryOnlyEvent tsMs agentId sessionId tid fence) = true := by
  obtain ⟨hi, hs, ht, hst⟩ :=
    recoveryOnlyEvent_reads tsMs agentId sessionId tid fence
  unfold admits
  split_ifs
  · rfl
  · rw [hi, hs, ht, hst]
    simp only [strtoull_fence hp, hf, Bool.not_false]

lemma admits_release {agentId sessionId tid : String} {resumed : Option UInt64}
    (hp : resumed ≠ some 0) (ht : fences.terminal = false)
    (hh : fences.recoveryOnly.lookup (ownerKey agentId sessionId) = resumed) :
    admits fences (releaseEvent tsMs agentId sessionId tid resumed) = true := by
  obtain ⟨hi, hs, hy, hst⟩ :=
    releaseEvent_reads tsMs agentId sessionId tid resumed
  unfold admits
  split_ifs
  · rfl
  rw [hi, hs, hy, hst]
  cases resumed with
  | none => simp only [Option.elim_none, userRecoveryFence_released, decide_true]
  | some fence =>
    have hf : fence ≠ 0 := by simpa using hp
    simp only [Option.elim_some, userRecoveryFence_userRecoveryRelease hf, hh, ht,
      decide_true, Bool.not_false, Bool.and_self]

end Coordinator

/-! ### The fences over a run -/

open Coordinator

variable {S : Service} {s s' : System} {action : Action} {e : OmsJournalEvent}
  {cfg : OmsJournalConfig}

lemma isIngress_of_not_isFence {et : EventType} (h : et.isFence = false) :
    isIngress et = false := by
  cases et <;> simp_all [EventType.isFence, isIngress]

lemma OmsJournal.Journaled.foldRead {events : List OmsJournalEvent} {j j' : OmsJournal}
    (h : Journaled cfg j events j') (hv : ∀ e ∈ events, isIngress e.eventType = false) :
    foldRead j'.records = foldRead j.records :=
  h.foldl_fixed fun e he => readStep_of_not_isIngress (hv e he)

lemma OmsJournal.Enters.foldRead {j j' : OmsJournal}
    (h : Enters cfg e j j') (hc : ∀ back, Overtakes cfg e back → back ⊆ j.pending →
      ∀ b ∈ back, isIngress b.eventType = false) :
    foldRead j'.records = readStep (foldRead j.records) e := by
  obtain ⟨_, back, hj, hj', hv, hs⟩ := h.inserted
  rw [hj, hj']
  exact foldl_append_cons_of_fixed e _ fun b hb => readStep_of_not_isIngress (hc back hv hs b hb)

/-- The records agree with the memory of a process that may still write, they cover what was
reported, and replay takes them. -/
structure Ingress (s : System) : Prop where
  mirrored : s.journal.writePoisoned = false → s.fences = foldFences s.journal.records
  covered : ∀ key fence, s.recoveryOnlySessionOwners.lookup key = some fence →
    (foldFences s.journal.records).Stands key fence
  resumed : ∀ key fence, s.resumedRecoveryIngress.lookup key = some fence →
    ∃ fence', (foldFences s.journal.records).resumed.lookup key = some fence' ∧ fence ≤ fence'
  acknowledged : ∀ agentId sessionId fence, .recoveryOnly agentId sessionId fence ∈ s.acknowledged →
    (foldFences s.journal.records).Stands (ownerKey agentId sessionId) fence
  readable : (foldRead s.journal.records).2 = true

namespace Ingress

lemma of_fixed (h : Ingress s) (hr : foldRead s'.journal.records = foldRead s.journal.records)
    (hps : s.journal.writePoisoned = true → s'.journal.writePoisoned = true)
    (hfs : s'.fences = s.fences)
    (hc : ∀ agentId sessionId fence, .recoveryOnly agentId sessionId fence ∈ s'.acknowledged →
      .recoveryOnly agentId sessionId fence ∈ s.acknowledged ∨
        s.recoveryOnlySessionOwners.lookup (ownerKey agentId sessionId) = some fence) :
    Ingress s' := by
  have hf : foldFences s'.journal.records = foldFences s.journal.records := by
    rw [← foldRead_fst, hr, foldRead_fst]
  have hh : s'.recoveryOnlySessionOwners = s.recoveryOnlySessionOwners :=
    congrArg FenceState.recoveryOnly hfs
  have hrs : s'.resumedRecoveryIngress = s.resumedRecoveryIngress :=
    congrArg FenceState.resumed hfs
  refine ⟨fun hp => ?_, ?_, ?_, fun agentId sessionId fence ha => ?_, hr ▸ h.readable⟩
  · rw [hfs, hf]
    exact h.mirrored (by
      cases hs : s.journal.writePoisoned with
      | false => rfl
      | true => simp [hps hs] at hp)
  · rw [hh, hf]
    exact h.covered
  · rw [hrs, hf]
    exact h.resumed
  · rw [hf]
    rcases hc agentId sessionId fence ha with ha | hh
    · exact h.acknowledged agentId sessionId fence ha
    · exact h.covered _ _ hh

lemma of_unfenced (h : Ingress s) (hu : Unfenced S s s') : Ingress s' := by
  obtain ⟨_, hj, hv⟩ := hu.journaled
  have ha : s'.acknowledged = s.acknowledged := congrArg FenceView.acknowledged hu.fences
  refine h.of_fixed (hj.foldRead fun e he => isIngress_of_not_isFence (hv e he))
    hu.poisoned ?_ fun _ _ _ hm => .inl (ha ▸ hm)
  exact congrArg (fun view : FenceView => (⟨view.recoveryOnlySessionOwners,
    view.resumedRecoveryIngress, view.paperTerminalFencePresent⟩ : FenceState)) hu.fences

lemma of_read (h : Ingress s)
    (hd : foldRead s'.journal.records = readStep (foldRead s.journal.records) e)
    (had : admits (foldFences s.journal.records) e = true)
    (hs : ∀ key fence, (foldFences s.journal.records).Stands key fence →
      (fenceStep (foldFences s.journal.records) e).Stands key fence)
    (hl : s'.fences = fenceStep (foldFences s.journal.records) e ∨
      (s'.journal.writePoisoned = true ∧ s'.fences = s.fences))
    (hc : ∀ agentId sessionId fence, .recoveryOnly agentId sessionId fence ∈ s'.acknowledged →
      .recoveryOnly agentId sessionId fence ∈ s.acknowledged ∨
        (fenceStep (foldFences s.journal.records) e).Stands (ownerKey agentId sessionId) fence) :
    Ingress s' := by
  have hf : foldFences s'.journal.records = fenceStep (foldFences s.journal.records) e := by
    rw [← foldRead_fst, hd, readStep, foldRead_fst]
  refine ⟨fun hp => ?_, fun key fence hh => ?_, fun key fence hr => ?_,
    fun agentId sessionId fence ha => ?_, ?_⟩
  · rw [hf]
    exact hl.resolve_right (by simp [hp])
  · rw [hf]
    have hh : s'.fences.recoveryOnly.lookup key = some fence := hh
    rcases hl with hl | ⟨-, hl⟩ <;> rw [hl] at hh
    · exact .inl ⟨fence, hh, UInt64.le_refl _⟩
    · exact hs key fence (h.covered key fence hh)
  · rw [hf]
    have hr : s'.fences.resumed.lookup key = some fence := hr
    rcases hl with hl | ⟨-, hl⟩ <;> rw [hl] at hr
    · exact ⟨fence, hr, UInt64.le_refl _⟩
    · obtain ⟨_, hb, he⟩ := h.resumed key fence hr
      obtain ⟨af, haf, he'⟩ := (fenceStep_change _ e).resumed (rising_foldFences _) hb
      exact ⟨af, haf, UInt64.le_trans he he'⟩
  · rw [hf]
    rcases hc agentId sessionId fence ha with ha | hs'
    · exact hs _ _ (h.acknowledged agentId sessionId fence ha)
    · exact hs'
  · rw [hd, readStep, foldRead_fst, had, h.readable]
    rfl

/-- A record that is appended or refused, and changes nothing if it is left out. -/
lemma of_append (h : Ingress s)
    (hj : Appended S e s.journal s'.journal ∧
        s'.fences = fenceStep (foldFences s.journal.records) e ∨
      Refused S unrestricted e s.journal s'.journal ∧ s'.fences = s.fences)
    (hb : ∀ back, Overtakes S.config e back → back ⊆ s.journal.pending →
      ∀ b ∈ back, isIngress b.eventType = false)
    (hd : s.journal.writePoisoned = false → admits (foldFences s.journal.records) e = true)
    (hs : s.journal.writePoisoned = false → ∀ key fence,
      (foldFences s.journal.records).Stands key fence →
        (fenceStep (foldFences s.journal.records) e).Stands key fence)
    (ha : ∀ agentId sessionId fence, .recoveryOnly agentId sessionId fence ∈ s'.acknowledged →
      .recoveryOnly agentId sessionId fence ∈ s.acknowledged ∨
        s'.recoveryOnlySessionOwners.lookup (ownerKey agentId sessionId) = some fence) :
    Ingress s' := by
  rcases hj with ⟨hap, hf⟩ | ⟨hr, hf⟩
  · refine h.of_read (hap.enters.foldRead hb) (hd hap.sound) (hs hap.sound)
      (.inl hf) fun agentId sessionId fence hc => ?_
    refine (ha agentId sessionId fence hc).imp_right fun hh => ?_
    have hh : s'.fences.recoveryOnly.lookup (ownerKey agentId sessionId) = some fence := hh
    rw [hf] at hh
    exact .inl ⟨fence, hh, UInt64.le_refl _⟩
  · have hh : s'.recoveryOnlySessionOwners = s.recoveryOnlySessionOwners :=
      congrArg FenceState.recoveryOnly hf
    rcases hr.spoils with hq | ⟨he, hsp⟩
    · exact h.of_fixed (by rw [hq.records]) (fun hp => hr.poisoned hp ▸ hp) hf
        (hh ▸ ha)
    cases hp : s.journal.writePoisoned with
    | true =>
      have hsame := hr.poisoned hp
      exact h.of_fixed (by rw [hsame]) (fun hp => hsame ▸ hp) hf (hh ▸ ha)
    | false =>
      refine h.of_read (he.foldRead hb) (hd hp) (hs hp)
        (.inr ⟨hsp, hf⟩) fun agentId sessionId fence hc => ?_
      rw [hh] at ha
      exact (ha agentId sessionId fence hc).imp_right fun hh => hs hp _ _ (h.covered _ _ hh)

lemma of_lost {front back : List OmsJournalEvent} (h : Ingress s)
    (hc : s.journal.records = front ++ back)
    (hl : ∀ e ∈ back, e.eventType ≠ .sessionOwnerRecoveryOnly) (hs' : s'.journal.records = front)
    (hf : s'.fences = foldFences front) (ha : s'.acknowledged = s.acknowledged) : Ingress s' := by
  refine ⟨fun _ => hs' ▸ hf, fun key fence hh => ?_, fun key fence hr => ?_,
    fun agentId sessionId fence hm => ?_, ?_⟩ <;> rw [hs']
  · have hh : s'.fences.recoveryOnly.lookup key = some fence := hh
    rw [hf] at hh
    exact .inl ⟨fence, hh, UInt64.le_refl _⟩
  · have hr : s'.fences.resumed.lookup key = some fence := hr
    rw [hf] at hr
    exact ⟨fence, hr, UInt64.le_refl _⟩
  · have ht := h.acknowledged agentId sessionId fence (ha ▸ hm)
    rw [hc] at ht
    exact stands_of_append hl ht
  · exact foldRead_of_append (hc ▸ h.readable)

end Ingress

/-- A release that is written through overtakes no record of the fences. -/
def System.releaseInOrder (S : Service) (s : System) : Prop :=
  S.config.asyncEnabled = true → S.config.syncCritical = true →
    S.config.criticalFlushQueued = false → ∀ e ∈ s.journal.pending, isIngress e.eventType = false

/-- What keeps the records of the recovery-only owners in their order and in the file. -/
def System.ingressKept (S : Service) (s : System) : Action → Prop
  | .auditAndReleaseSessionOwnerFence .. => s.releaseInOrder S
  | .recoverFromJournal io => s.journal.writePoisoned = true ∨ io = {}
  | .restart io => io = {} ∧ ∀ e ∈ s.journal.unsynced ++ s.journal.pending,
      e.eventType ≠ .sessionOwnerRecoveryOnly
  | _ => True

lemma records_eq_synced_append (j : OmsJournal) :
    j.records = j.synced ++ (j.unsynced ++ j.pending) := by
  simp [OmsJournal.records, OmsJournal.written]

namespace Ingress

lemma of_other (h : Ingress s) (he : isIngress e.eventType = false)
    (hr : Appended S e s.journal s'.journal ∨ Refused S unrestricted e s.journal s'.journal)
    (hf : s'.fences = s.fences)
    (hc : ∀ agentId sessionId fence, .recoveryOnly agentId sessionId fence ∈ s'.acknowledged →
      .recoveryOnly agentId sessionId fence ∈ s.acknowledged) : Ingress s' := by
  obtain ⟨_, hj, hv, hp⟩ := journaled_of_append hr
  exact h.of_fixed (hj.foldRead fun b hb => hv b hb ▸ he) hp hf
    fun agentId sessionId fence ha => .inl (hc agentId sessionId fence ha)

lemma enterAccountNewEntryFence (ho : Ordered S.config s.journal) (h : Ingress s)
    (context : AgentExecutionContext) (io : Io) :
    Ingress (s.enterAccountNewEntryFence S context io).1 := by
  have hi : Sound unrestricted s.journal (io.file 0) := .inl trivial
  rcases enterAccountNewEntryFence_cases ho hi context with
    hs' | ⟨-, hs'⟩ | ⟨-, j', ⟨hp, hs'⟩ | ⟨hr, hs'⟩⟩ <;> rw [hs']
  · exact h
  · exact h.of_fixed rfl id rfl fun _ _ _ ha => .inl (by simpa using ha)
  · exact h.of_other rfl (.inl hp) rfl fun _ _ _ ha => by simpa [setJournal] using ha
  · exact h.of_other rfl (.inr hr) rfl fun _ _ _ ha => ha

lemma fenceSessionOwner (ho : Ordered S.config s.journal) (h : Ingress s)
    (agentId sessionId : String) (io : Io) : Ingress (s.fenceSessionOwner S agentId sessionId io).1 := by
  have hi : Sound unrestricted s.journal (io.file 0) := .inl trivial
  rcases fenceSessionOwner_cases ho hi agentId sessionId with
    hs' | ⟨e, j', -, ht, ⟨hp, hs'⟩ | ⟨hr, hs'⟩⟩ <;> rw [hs']
  · exact h
  · exact h.of_other (by rw [ht]; rfl) (.inl hp) rfl fun _ _ _ ha => ha
  · exact h.of_other (by rw [ht]; rfl) (.inr hr) rfl fun _ _ _ ha => ha

lemma stands_recoveryOnly {fences : FenceState} {key : String} {fence : UInt64}
    (hr : (fences.recoveryOnly.lookup key).any (fence < ·) = false) {key' : String}
    {fence' : UInt64} (h : fences.Stands key' fence') :
    ({ fences with recoveryOnly := fences.recoveryOnly.insert key fence } : FenceState).Stands
      key' fence' := by
  refine h.imp_left fun ⟨held, hh, hl⟩ => ?_
  by_cases hk : key' = key
  · subst hk
    refine ⟨fence, lookup_insert _, UInt64.le_trans hl ?_⟩
    rw [hh] at hr
    simpa using hr
  · exact ⟨held, by rwa [lookup_insert_of_ne _ hk], hl⟩

variable (ho : Ordered S.config s.journal)

include ho

lemma enterRecoveryOnlyOwner (h : Ingress s) (agentId sessionId : String) (ingressFence : UInt64)
    (io : Io) : Ingress (s.enterRecoveryOnlyOwner S agentId sessionId ingressFence io).1 := by
  have hi : Sound unrestricted s.journal (io.file 0) := .inl trivial
  rcases enterRecoveryOnlyOwner_cases ho hi agentId sessionId ingressFence with
    ⟨hs', -⟩ | ⟨hac, ⟨hh, hs'⟩ | ⟨toolCallId, j', hm, hc⟩⟩
  · rwa [hs']
  · -- the fence is there already
    have hsm : s.recoveryOnlySessionOwners.insert (ownerKey agentId sessionId) ingressFence =
        s.recoveryOnlySessionOwners := UMap.insert_lookup hh
    rw [hs']
    refine h.of_fixed rfl id ?_ fun agentId' sessionId' fence ha => ?_
    · simp only [acknowledgeRecoveryOnly, fences, hsm]
    · simp only [acknowledgeRecoveryOnly, mem_cons, FenceAcknowledgement.recoveryOnly.injEq] at ha
      rcases ha with ⟨rfl, rfl, rfl⟩ | ha
      · exact .inr hh
      · exact .inl ha
  · set e := recoveryOnlyEvent (io.clock 0) agentId sessionId toolCallId ingressFence with he
    have hq : e.eventType.isCritical = false := rfl
    have hsp : s.journal.writePoisoned = false →
        admits (foldFences s.journal.records) e = true ∧
        fenceStep (foldFences s.journal.records) e = { s.fences with
          recoveryOnly :=
            s.fences.recoveryOnly.insert (ownerKey agentId sessionId) ingressFence } := by
      intro hp
      rw [← h.mirrored hp]
      exact ⟨admits_recoveryOnly hac.positive hac.fresh,
        fenceStep_recoveryOnly hac.agent hm hac.positive hac.fresh⟩
    have ht : s.journal.writePoisoned = false → ∀ key fence,
        (foldFences s.journal.records).Stands key fence →
          (fenceStep (foldFences s.journal.records) e).Stands key fence := by
      intro hp key fence ht
      rw [(hsp hp).2]
      rw [← h.mirrored hp] at ht
      exact stands_recoveryOnly hac.rising ht
    have hbc : ∀ back, Overtakes S.config e back → back ⊆ s.journal.pending →
        ∀ b ∈ back, isIngress b.eventType = false := by
      intro back hv _ b hb
      rw [hv.quick hq] at hb
      simp at hb
    rcases hc with ⟨hap, hs'⟩ | ⟨hr, hs', -⟩ <;> rw [hs']
    · refine h.of_append (.inl ⟨hap, (hsp hap.sound).2.symm⟩) hbc
        (fun hp => (hsp hp).1) ht fun agentId' sessionId' fence ha => ?_
      simp only [acknowledgeRecoveryOnly, setJournal, mem_cons,
        FenceAcknowledgement.recoveryOnly.injEq] at ha
      rcases ha with ⟨rfl, rfl, rfl⟩ | ha
      · exact .inr (lookup_insert _)
      · exact .inl ha
    · exact h.of_append (.inr ⟨hr, rfl⟩) hbc (fun hp => (hsp hp).1) ht
        fun _ _ _ ha => .inl ha

lemma auditAndReleaseSessionOwnerFence (h : Ingress s) (hor : s.releaseInOrder S)
    (agentId sessionId : String) (complete : Bool) (expectedFence : UInt64) (io : Io) : Ingress
    (s.auditAndReleaseSessionOwnerFence S agentId sessionId complete expectedFence io).1 := by
  have hi : Sound unrestricted s.journal (io.file 0) := .inl trivial
  rcases auditAndReleaseSessionOwnerFence_cases ho hi agentId sessionId complete expectedFence with
    hs' | ⟨hg, -, ht, hpos, toolCallId, j', hm, hc⟩
  · rwa [hs']
  generalize hh : s.recoveryOnlySessionOwners.lookup (ownerKey agentId sessionId) = resumed
    at hpos hc
  set e := releaseEvent (io.clock 1) agentId sessionId toolCallId resumed with he
  have hst : s.journal.writePoisoned = false →
      admits (foldFences s.journal.records) e = true ∧
      fenceStep (foldFences s.journal.records) e =
        (s.releaseOwner (ownerKey agentId sessionId) resumed).fences := by
    intro hp
    rw [← h.mirrored hp]
    refine ⟨admits_release hpos ht hh, ?_⟩
    cases resumed with
    | none => exact fenceStep_released ..
    | some => exact fenceStep_resumed hg hm (by simpa using hpos) hh ht
  have hbc : ∀ back, Overtakes S.config e back → back ⊆ s.journal.pending →
      ∀ b ∈ back, isIngress b.eventType = false := by
    intro back hv hsb b hb
    cases has : S.config.asyncEnabled with
    | false => simp [hv.async has] at hb
    | true =>
      cases hy : S.config.syncCritical with
      | false => simp [hv.queued hy rfl] at hb
      | true =>
        cases hf : S.config.criticalFlushQueued with
        | true => simp [hv.flushed hf] at hb
        | false => exact hor has hy hf b (hsb hb)
  rcases hc with ⟨hap, hs'⟩ | ⟨hr, hs'⟩ <;> rw [hs']
  · exact h.of_append (.inl ⟨hap, (hst hap.sound).2.symm⟩) hbc (fun hp => (hst hp).1)
      (fun _ _ _ => stands_fenceStep nofun) fun _ _ _ ha => .inl ha
  · exact h.of_append (.inr ⟨hr, rfl⟩) hbc (fun hp => (hst hp).1)
      (fun _ _ _ => stands_fenceStep nofun) fun _ _ _ ha => .inl ha

lemma enterPaperTerminalFenceAndProject (h : Ingress s)
    (binding : PaperTerminalFenceBinding) (hashed : Bool) (io : Io) :
    Ingress (s.enterPaperTerminalFenceAndProject S binding hashed io).1 := by
  have hi : Sound unrestricted s.journal (io.file 0) := .inl trivial
  have hm : ∀ {acknowledged : List FenceAcknowledgement},
      acknowledged = s.acknowledged ∨ acknowledged = .paperTerminal :: s.acknowledged →
      ∀ {agentId sessionId fence}, .recoveryOnly agentId sessionId fence ∈ acknowledged →
        .recoveryOnly agentId sessionId fence ∈ s.acknowledged := by
    rintro _ (rfl | rfl) agentId sessionId fence ha
    · exact ha
    · simpa using ha
  rcases enterPaperTerminalFenceAndProject_cases ho hi binding hashed with
    hs' | ⟨-, acknowledged, ha, hs'⟩ | ⟨hv, -, -, j', hc⟩
  · rwa [hs']
  · rw [hs']
    exact h.of_fixed rfl id rfl fun _ _ _ hm' => .inl (hm ha hm')
  · set e := terminalFenceEvent (io.clock 0) binding with he
    have hst : s.journal.writePoisoned = false → fenceStep (foldFences s.journal.records) e =
        { s.fences with terminal := true } := by
      intro hp
      rw [← h.mirrored hp]
      exact fenceStep_terminal hv
    have hd : admits (foldFences s.journal.records) e = true := by
      have ht : e.eventType = .paperTerminalFence := rfl
      unfold admits
      simp only [ht]
      split_ifs <;> rfl
    have hbc : ∀ back, Overtakes S.config e back → back ⊆ s.journal.pending →
        ∀ b ∈ back, isIngress b.eventType = false := by
      intro back hov _ b hb
      rw [hov.quick rfl] at hb
      simp at hb
    rcases hc with ⟨hap, _, ha, hs'⟩ | ⟨hr, hs'⟩ <;> rw [hs']
    · exact h.of_append (.inl ⟨hap, (hst hap.sound).symm⟩) hbc (fun _ => hd)
        (fun _ _ _ => stands_fenceStep nofun) fun _ _ _ hm' => .inl (hm ha hm')
    · exact h.of_append (.inr ⟨hr, rfl⟩) hbc (fun _ => hd)
        (fun _ _ _ => stands_fenceStep nofun) fun _ _ _ hm' => .inl hm'

lemma recoverFromJournal
    (hl : s.venueDispatchesInFlight = s.dispatches.length) (h : Ingress s) {io : RecoverIo}
    (hio : s.journal.writePoisoned = true ∨ io = {}) : Ingress (s.recoverFromJournal io).1 := by
  rcases recoverFromJournal_cases ho hl io with
    ⟨-, hs'⟩ | ⟨-, j', hs', hr, -, -, -⟩ | ⟨-, j', reason, hs', hq, -, -, hf⟩
  · rwa [hs']
  · rw [hs']
    refine h.of_lost (append_nil _).symm (by simp) hr ?_ rfl
    rw [← hr]
    exact fences_recovered _
  · -- the fences are gone from memory, but nothing can be written any more
    have hps : s.journal.writePoisoned = true := by
      rcases hio with hp | hio
      · exact hp
      · cases hp : s.journal.writePoisoned with
        | true => rfl
        | false => exact absurd ⟨hp, hio⟩ hf
    have hj' : j'.writePoisoned = true := by
      have ha := recoverFromJournal_poisoned hps io
      have hi : (s.recoverFromJournal io).1.journal = j' := by rw [hs']
      rwa [hi] at ha
    rw [hs']
    refine ⟨fun hp => absurd hp (by simp [hj']), ?_, ?_, ?_, ?_⟩
    · simp [Coordinator.block]
    · simp [Coordinator.block]
    · simpa only [hq.records] using h.acknowledged
    · simpa only [hq.records] using h.readable

omit ho

lemma restart (S : Service) (h : Ingress s) (hl : ∀ e ∈ s.journal.unsynced ++ s.journal.pending,
    e.eventType ≠ .sessionOwnerRecoveryOnly) :
    Ingress (s.restart {}).1 ∧ (s.restart {}).1.journal.writePoisoned = false ∧
      (s.restart {}).1.fences = foldFences s.journal.synced := by
  have hor : Ordered S.config s.crash.journal := afterCrash_ordered _
  rcases recoverFromJournal_cases (s := s.crash) hor rfl {} with
    ⟨hb, -⟩ | ⟨-, j', hs', hr, -, -, hsn⟩ | ⟨-, j', reason, hs', -, -, -, hfl⟩
  · simp [crash] at hb
  · have hy : j'.records = s.journal.synced := hr.trans (afterCrash_records _)
    rw [System.restart, hs']
    have hf : (Coordinator.recovered j'.records).fences = foldFences s.journal.synced := by
      rw [fences_recovered, hy]
    exact ⟨h.of_lost (records_eq_synced_append _) hl hy hf rfl, hsn, hf⟩
  · exact absurd ⟨rfl, rfl⟩ hfl

end Ingress

/-- Runs in which no fence is touched and no process recovers. -/
def unfencing : Allowance := { unrestricted with fence := False, recover := False }

lemma System.unfenced_step (hc : Coherent S s) (hfn : action.isFence = false)
    (hr : action.isRecovery = false) : Unfenced S s (s.step S action) := by
  have hp : unfencing.Permits s action :=
    ⟨.inl trivial, .inl trivial, .inl trivial, .inr hfn, .inr hr, .inl trivial,
      fun _ _ => trivial, fun _ _ => trivial⟩
  have hm := step_moves hc (.inl trivial) hp
  generalize s.step S action = s' at hm
  induction hm with
  | refl => exact .of_quiet (Quiet.refl _) rfl id
  | tail _ hv ih => exact ih.trans (hv.unfenced (fun hf => hf) fun hf => hf)

lemma Ingress.step (hc : Coherent S s) (h : Ingress s)
    (hk : s.ingressKept S action) : Ingress (s.step S action) := by
  cases hf : action.isFence with
  | true =>
    cases action with
    | enterAccountNewEntryFence => exact h.enterAccountNewEntryFence hc.ordered ..
    | fenceSessionOwner => exact h.fenceSessionOwner hc.ordered ..
    | enterRecoveryOnlyOwner => exact h.enterRecoveryOnlyOwner hc.ordered ..
    | auditAndReleaseSessionOwnerFence agentId sessionId complete expectedFence io =>
      exact h.auditAndReleaseSessionOwnerFence hc.ordered hk agentId sessionId complete
        expectedFence io
    | enterPaperTerminalFenceAndProject => exact h.enterPaperTerminalFenceAndProject hc.ordered ..
    | _ => simp [Action.isFence] at hf
  | false =>
    cases hr : action.isRecovery with
    | true =>
      cases action with
      | recoverFromJournal => exact h.recoverFromJournal hc.ordered hc.inFlight hk
      | restart =>
        obtain ⟨rfl, hl⟩ := hk
        exact (h.restart S hl).1
      | _ => simp [Action.isRecovery] at hr
    | false => exact h.of_unfenced (System.unfenced_step hc hf hr)

lemma ingress_start : Ingress {} := by
  refine ⟨fun _ => rfl, ?_, ?_, ?_, rfl⟩ <;> simp

/-! ### The order of the fences -/

/-- What an action other than a recovery does to the recovery-only owners and to the operations
that reported them. -/
inductive IngressStep (s s' : System) : Prop
  | kept (held : s'.recoveryOnlySessionOwners = s.recoveryOnlySessionOwners)
      (resumed : s'.resumedRecoveryIngress = s.resumedRecoveryIngress)
      (acknowledged : s'.acknowledged = s.acknowledged ∨
        ∃ ack, (∀ agentId sessionId fence, ack ≠ .recoveryOnly agentId sessionId fence) ∧
          s'.acknowledged = ack :: s.acknowledged)
  | entered (agentId sessionId : String) (ingressFence : UInt64)
      (accepted : s.IngressAccepted agentId sessionId ingressFence)
      (held : s'.recoveryOnlySessionOwners =
        s.recoveryOnlySessionOwners.insert (ownerKey agentId sessionId) ingressFence)
      (resumed : s'.resumedRecoveryIngress = s.resumedRecoveryIngress)
      (acknowledged : s'.acknowledged =
        .recoveryOnly agentId sessionId ingressFence :: s.acknowledged)
  | resumed (key : String) (fence : UInt64) (sound : s.journal.writePoisoned = false)
      (before : s.recoveryOnlySessionOwners.lookup key = some fence)
      (held : s'.recoveryOnlySessionOwners = s.recoveryOnlySessionOwners.erase key)
      (resumed : s'.resumedRecoveryIngress = s.resumedRecoveryIngress.insert key fence)
      (acknowledged : s'.acknowledged = s.acknowledged)

lemma System.ingressStep_fence (hc : Coherent S s)
    (hf : action.isFence = true) : IngressStep s (s.step S action) := by
  have hi : ∀ io : Io, Sound unrestricted s.journal (io.file 0) := fun _ => .inl trivial
  cases action with
  | enterAccountNewEntryFence context io =>
    simp only [step]
    rcases enterAccountNewEntryFence_cases hc.ordered (hi io) context with
      hs' | ⟨-, hs'⟩ | ⟨-, j', ⟨-, hs'⟩ | ⟨-, hs'⟩⟩ <;> rw [hs']
    · exact .kept rfl rfl (.inl rfl)
    · exact .kept rfl rfl (.inr ⟨.account context.account, by simp, rfl⟩)
    · exact .kept rfl rfl (.inr ⟨.account context.account, by simp, rfl⟩)
    · exact .kept rfl rfl (.inl rfl)
  | fenceSessionOwner agentId sessionId io =>
    simp only [step]
    rcases fenceSessionOwner_cases hc.ordered (hi io) agentId sessionId with
      hs' | ⟨e, j', -, -, ⟨-, hs'⟩ | ⟨-, hs'⟩⟩ <;> rw [hs'] <;> exact .kept rfl rfl (.inl rfl)
  | enterRecoveryOnlyOwner agentId sessionId ingressFence io =>
    simp only [step]
    rcases enterRecoveryOnlyOwner_cases hc.ordered (hi io) agentId sessionId ingressFence with
      ⟨hs', -⟩ | ⟨hac, ⟨-, hs'⟩ | ⟨toolCallId, j', -, ⟨-, hs'⟩ | ⟨-, hs', -⟩⟩⟩ <;> rw [hs']
    · exact .kept rfl rfl (.inl rfl)
    · exact .entered agentId sessionId ingressFence hac rfl rfl rfl
    · exact .entered agentId sessionId ingressFence hac rfl rfl rfl
    · exact .kept rfl rfl (.inl rfl)
  | auditAndReleaseSessionOwnerFence agentId sessionId complete expectedFence io =>
    simp only [step]
    rcases auditAndReleaseSessionOwnerFence_cases hc.ordered (hi io) agentId sessionId complete
      expectedFence with hs' | ⟨-, -, -, -, toolCallId, j', -, ⟨hp, hs'⟩ | ⟨-, hs'⟩⟩ <;> rw [hs']
    · exact .kept rfl rfl (.inl rfl)
    · cases hh : s.recoveryOnlySessionOwners.lookup (ownerKey agentId sessionId) with
      | none => exact .kept rfl rfl (.inl rfl)
      | some fence => exact .resumed _ fence hp.sound hh rfl rfl rfl
    · exact .kept rfl rfl (.inl rfl)
  | enterPaperTerminalFenceAndProject binding hashed io =>
    have ha : ∀ {acknowledged : List FenceAcknowledgement},
        acknowledged = s.acknowledged ∨ acknowledged = .paperTerminal :: s.acknowledged →
        acknowledged = s.acknowledged ∨ ∃ ack,
          (∀ agentId sessionId fence, ack ≠ .recoveryOnly agentId sessionId fence) ∧
            acknowledged = ack :: s.acknowledged :=
      fun h => h.imp_right fun h => ⟨.paperTerminal, by simp, h⟩
    simp only [step]
    rcases enterPaperTerminalFenceAndProject_cases hc.ordered (hi io) binding hashed with
      hs' | ⟨-, acknowledged, h, hs'⟩ | ⟨-, -, -, j', ⟨-, acknowledged, h, hs'⟩ | ⟨-, hs'⟩⟩ <;>
      rw [hs']
    · exact .kept rfl rfl (.inl rfl)
    · exact .kept rfl rfl (ha h)
    · exact .kept rfl rfl (ha h)
    · exact .kept rfl rfl (.inl rfl)
  | _ => simp [Action.isFence] at hf

lemma System.ingressStep (hc : Coherent S s) (hr : action.isRecovery = false) :
    IngressStep s (s.step S action) := by
  cases hfn : action.isFence with
  | true => exact ingressStep_fence hc hfn
  | false =>
    have hf := (unfenced_step hc hfn hr).fences
    exact .kept (congrArg FenceView.recoveryOnlySessionOwners hf) (congrArg
      FenceView.resumedRecoveryIngress hf) (.inl (congrArg FenceView.acknowledged hf))

/-- The first report names no lower fence of an owner than the second. -/
def FenceAcknowledgement.NotBelow (later earlier : FenceAcknowledgement) : Prop :=
  ∀ agentId sessionId fence fence', later = .recoveryOnly agentId sessionId fence →
    earlier = .recoveryOnly agentId sessionId fence' → fence' ≤ fence

/-- The process knows of every owner that was reported, and the reports of an owner, the latest
first, do not rise. -/
structure Remembers (s : System) : Prop where
  stands : ∀ agentId sessionId fence, .recoveryOnly agentId sessionId fence ∈ s.acknowledged →
    s.fences.Stands (ownerKey agentId sessionId) fence
  ordered : s.acknowledged.Pairwise FenceAcknowledgement.NotBelow

/-- What was resumed stays resumed, from the same fence or a higher one. -/
def ResumedGrows (s s' : System) : Prop :=
  ∀ key fence, s.resumedRecoveryIngress.lookup key = some fence →
    ∃ fence', s'.resumedRecoveryIngress.lookup key = some fence' ∧ fence ≤ fence'

lemma ResumedGrows.of_eq (h : s'.resumedRecoveryIngress = s.resumedRecoveryIngress) :
    ResumedGrows s s' := fun _ fence hr => ⟨fence, h ▸ hr, UInt64.le_refl _⟩

lemma ResumedGrows.trans {s₁ : System} (h : ResumedGrows s s₁) (h' : ResumedGrows s₁ s') :
    ResumedGrows s s' := by
  intro key fence hr
  obtain ⟨fence₁, hr₁, hl⟩ := h key fence hr
  obtain ⟨fence', hr', hl'⟩ := h' key fence₁ hr₁
  exact ⟨fence', hr', UInt64.le_trans hl hl'⟩

lemma System.IngressAccepted.le {agentId sessionId : String} {ingressFence fence : UInt64}
    (h : s.IngressAccepted agentId sessionId ingressFence)
    (hs : s.fences.Stands (ownerKey agentId sessionId) fence) : fence ≤ ingressFence := by
  rcases hs with ⟨held, hh, hl⟩ | ⟨resumed, hrs, hl⟩
  · have hr := h.rising
    rw [show s.recoveryOnlySessionOwners.lookup (ownerKey agentId sessionId) = some held
      from hh] at hr
    exact UInt64.le_trans hl (by simpa using hr)
  · have hf := h.fresh
    rw [show s.resumedRecoveryIngress.lookup (ownerKey agentId sessionId) = some resumed
      from hrs] at hf
    exact UInt64.le_trans hl (UInt64.le_of_lt (by simpa using hf))

lemma IngressStep.grows (h : Ingress s) (hs : IngressStep s s') : ResumedGrows s s' := by
  cases hs with
  | kept _ resumed => exact .of_eq resumed
  | entered _ _ _ _ _ resumed => exact .of_eq resumed
  | resumed key fence sound bf held resumed =>
    intro key' fence' hr
    rw [resumed]
    by_cases hk : key' = key
    · subst hk
      have hrs : s.fences.Rising := h.mirrored sound ▸ rising_foldFences _
      exact ⟨fence, lookup_insert _, UInt64.le_of_lt (hrs _ _ _ bf hr)⟩
    · exact ⟨fence', by rwa [lookup_insert_of_ne _ hk], UInt64.le_refl _⟩

lemma IngressStep.remembers (h : Ingress s) (hr : Remembers s) (ht : IngressStep s s') :
    Remembers s' := by
  cases ht with
  | kept held resumed ad =>
    have hs : ∀ key fence, s.fences.Stands key fence → s'.fences.Stands key fence := by
      intro key fence hs
      simpa only [FenceState.Stands, fences, held, resumed] using hs
    rcases ad with ha | ⟨ack, hother, ha⟩
    · exact ⟨fun agentId sessionId fence hm =>
        hs _ _ (hr.stands agentId sessionId fence (ha ▸ hm)), ha ▸ hr.ordered⟩
    refine ⟨fun agentId sessionId fence hm => ?_, ?_⟩ <;> rw [ha] at *
    · exact hs _ _ (hr.stands agentId sessionId fence
        ((List.mem_cons.mp hm).resolve_left fun heq => hother _ _ _ heq.symm))
    · exact List.pairwise_cons.mpr ⟨fun _ _ agentId sessionId fence _ heq =>
        absurd heq (hother agentId sessionId fence), hr.ordered⟩
  | entered agentId sessionId ingressFence accepted held resumed ad =>
    have hs : ∀ key fence, s.fences.Stands key fence → s'.fences.Stands key fence := by
      intro key fence hs
      have hi := Ingress.stands_recoveryOnly accepted.rising hs
      simpa only [FenceState.Stands, fences, held, resumed] using hi
    constructor
    · intro agentId' sessionId' fence hm
      rw [ad, mem_cons] at hm
      rcases hm with heq | hm
      · obtain ⟨rfl, rfl, rfl⟩ := FenceAcknowledgement.recoveryOnly.inj heq
        refine .inl ⟨fence, ?_, UInt64.le_refl _⟩
        simp only [fences, held]
        exact lookup_insert _
      · exact hs _ _ (hr.stands agentId' sessionId' fence hm)
    · rw [ad]
      refine List.pairwise_cons.mpr ⟨fun ack hm agentId' sessionId' fence fence' hw hol => ?_,
        hr.ordered⟩
      obtain ⟨rfl, rfl, rfl⟩ := FenceAcknowledgement.recoveryOnly.inj hw
      exact accepted.le (hr.stands _ _ fence' (hol ▸ hm))
  | resumed key fence sound bf held resumed ad =>
    refine ⟨fun agentId sessionId fence' hm => ?_, ad ▸ hr.ordered⟩
    have hri : s.fences.Rising := h.mirrored sound ▸ rising_foldFences _
    have hs := hr.stands agentId sessionId fence' (ad ▸ hm)
    by_cases hk : ownerKey agentId sessionId = key
    · refine .inr ⟨fence, ?_, ?_⟩
      · simp only [fences, resumed]
        rw [hk]
        exact lookup_insert _
      · rw [hk] at hs
        rcases hs with ⟨_, hh', hl⟩ | ⟨resumed', hrs', hl⟩
        · rw [show s.fences.recoveryOnly.lookup key = some fence from bf,
            Option.some.injEq] at hh'
          exact hh' ▸ hl
        · exact UInt64.le_trans hl (UInt64.le_of_lt (hri _ _ _ bf hrs'))
    · simpa only [FenceState.Stands, fences, held, resumed, lookup_erase_ne hk,
        lookup_insert_of_ne _ hk] using hs

/-- The recovery ingress of a state on the way of a run that keeps it. -/
structure KeepsIngress (S : Service) (s : System) : Prop where
  coherent : Coherent S s
  regular : ∀ e ∈ s.journal.records, e.Regular
  ingress : Ingress s
  remembers : Remembers s

/-- No release overtakes a record of the fences, every recovery reads the journal, and a process
that dies leaves the records of the recovery-only owners and of their releases synced. -/
def System.ingressSafe (S : Service) (s : System) : Action → Prop
  | .auditAndReleaseSessionOwnerFence .. => s.releaseInOrder S
  | .recoverFromJournal io => s.journal.writePoisoned = false ∧ io = {}
  | .restart io => io = {} ∧ ∀ e ∈ s.journal.unsynced ++ s.journal.pending,
      e.eventType ≠ .sessionOwnerRecoveryOnly ∧ e.eventType ≠ .sessionOwnerFenceRelease
  | _ => True

lemma System.ingressSafe.kept (h : s.ingressSafe S action) : s.ingressKept S action := by
  cases action with
  | auditAndReleaseSessionOwnerFence => exact h
  | recoverFromJournal => exact .inr h.2
  | restart => exact ⟨h.1, fun e he => (h.2 e he).1⟩
  | _ => trivial

lemma Remembers.of_ingress (h : Ingress s) (hs : s.journal.writePoisoned = false)
    (hr : s.acknowledged.Pairwise FenceAcknowledgement.NotBelow) : Remembers s :=
  ⟨fun agentId sessionId fence hm =>
    h.mirrored hs ▸ h.acknowledged agentId sessionId fence hm, hr⟩

lemma KeepsIngress.step (h : KeepsIngress S s) (hsf : s.ingressSafe S action) :
    KeepsIngress S (s.step S action) ∧ ResumedGrows s (s.step S action) := by
  have hm := step_moves h.coherent (.inl trivial) (permits_unrestricted s action)
  have hc := Moves.coherent h.coherent hm
  have hg := Moves.regular h.regular hm
  have hi := h.ingress.step h.coherent hsf.kept
  suffices Remembers (s.step S action) ∧ ResumedGrows s (s.step S action) from
    ⟨⟨hc, hg, hi, this.1⟩, this.2⟩
  cases hrc : action.isRecovery with
  | false =>
    have ht := ingressStep h.coherent hrc
    exact ⟨ht.remembers h.ingress h.remembers, ht.grows h.ingress⟩
  | true =>
    cases action with
    | recoverFromJournal =>
      -- the memory already agreed with the journal
      obtain ⟨hsn, rfl⟩ := hsf
      simp only [System.step] at hi ⊢
      rcases recoverFromJournal_cases h.coherent.ordered h.coherent.inFlight {} with
        ⟨-, hs'⟩ | ⟨-, j', hs', hre, -, -, hsn'⟩ | ⟨-, -, -, -, -, -, -, hfl⟩
      · rw [hs']
        exact ⟨h.remembers, .of_eq rfl⟩
      · rw [hs'] at hi ⊢
        refine ⟨.of_ingress hi hsn' h.remembers.ordered, .of_eq ?_⟩
        have hsm : (Coordinator.recovered j'.records).fences = s.fences := by
          rw [fences_recovered, hre, h.ingress.mirrored hsn]
        exact congrArg FenceState.resumed hsm
      · exact absurd ⟨hsn, rfl⟩ hfl
    | restart =>
      obtain ⟨rfl, hl⟩ := hsf
      obtain ⟨hi', hsn, hf⟩ := h.ingress.restart S fun e he => (hl e he).1
      have ha : (s.restart {}).1.acknowledged = s.acknowledged := rfl
      refine ⟨.of_ingress hi' hsn (ha ▸ h.remembers.ordered), fun key fence hr => ?_⟩
      obtain ⟨fence', hr', hle⟩ := h.ingress.resumed key fence hr
      rw [records_eq_synced_append, resumed_of_append fun e he => (hl e he).2] at hr'
      have hv : (s.restart {}).1.resumedRecoveryIngress = (foldFences s.journal.synced).resumed :=
        congrArg FenceState.resumed hf
      exact ⟨fence', by rw [← hr', ← hv]; rfl, hle⟩
    | _ => simp [Action.isRecovery] at hrc

lemma unfenced_reset (s : System) : Unfenced S s s.resetMutationBlockAfterReconcile := by
  unfold resetMutationBlockAfterReconcile
  split_ifs <;> exact .of_quiet (Quiet.refl _) rfl id

lemma KeepsIngress.call (h : KeepsIngress S s) {call : Call}
    (hsf : onActions (ingressSafe S) s call) :
    KeepsIngress S (s.call S call) ∧ ResumedGrows s (s.call S call) := by
  cases call with
  | act => exact h.step hsf
  | resetMutationBlockAfterReconcile =>
    have hj : s.resetMutationBlockAfterReconcile.journal = s.journal := by
      unfold resetMutationBlockAfterReconcile
      split_ifs <;> rfl
    have hf := (unfenced_reset (S := S) s).fences
    have hs : IngressStep s s.resetMutationBlockAfterReconcile :=
      .kept (congrArg FenceView.recoveryOnlySessionOwners hf)
        (congrArg FenceView.resumedRecoveryIngress hf)
        (.inl (congrArg FenceView.acknowledged hf))
    exact ⟨⟨h.coherent.reset, fun e he => h.regular e (hj ▸ he),
      h.ingress.of_unfenced (unfenced_reset (S := S) s), hs.remembers h.ingress h.remembers⟩,
      hs.grows h.ingress⟩

lemma KeepsIngress.calls (h : KeepsIngress S s) {calls : List Call}
    (hm : callsMeet S (onActions (ingressSafe S)) s calls) :
    KeepsIngress S (calls.foldl (System.call S) s) ∧
      ResumedGrows s (calls.foldl (System.call S) s) := by
  induction calls generalizing s with
  | nil => exact ⟨h, .of_eq rfl⟩
  | cons call calls ih =>
    obtain ⟨hl, hg⟩ := h.call hm.1
    obtain ⟨hc, hg'⟩ := ih hl hm.2
    exact ⟨hc, hg.trans hg'⟩

lemma keepsIngress_start : KeepsIngress S {} :=
  ⟨coherent_start, by simp [records, written, pending], ingress_start, by simp, List.Pairwise.nil⟩

/-- In every run that keeps the records of the recovery ingress in order and in the file: replay of
any part of the journal blocks for no recovery-only owner and no release; what was resumed stays
resumed and its fence does not go down; nor do the fences of the owners that were accepted; and an
owner is accepted only above every fence it was resumed from. -/
theorem recovery_ingress_rises (S : Service) (before after : List Call)
    (h : callsMeet S (onActions (ingressSafe S)) {} (before ++ after)) :
    (∀ events, events <+: (callRun S (before ++ after)).journal.records →
      (Coordinator.replay events).mutationBlockReason ∉ ingressBlocks) ∧
    (∀ key fence, (callRun S before).resumedRecoveryIngress.lookup key = some fence →
      ∃ fence', (callRun S (before ++ after)).resumedRecoveryIngress.lookup key = some fence' ∧
        fence ≤ fence') ∧
    (callRun S (before ++ after)).acknowledged.Pairwise FenceAcknowledgement.NotBelow ∧
    (∀ agentId sessionId ingressFence io, ((callRun S (before ++ after)).enterRecoveryOnlyOwner S agentId
        sessionId ingressFence io).2.ok = true →
      ∀ fence, (callRun S before).resumedRecoveryIngress.lookup (ownerKey agentId sessionId) =
        some fence → fence < ingressFence) := by
  obtain ⟨hb, haf⟩ := callsMeet_append h
  obtain ⟨hs, -⟩ := (keepsIngress_start (S := S)).calls hb
  obtain ⟨hl, hg⟩ := hs.calls haf
  have hrn : callRun S (before ++ after) = after.foldl (System.call S) (callRun S before) := by
    simp [callRun]
  change KeepsIngress S (after.foldl (System.call S) (callRun S before)) at hl
  change ResumedGrows (callRun S before) (after.foldl (System.call S) (callRun S before)) at hg
  rw [← hrn] at hl hg
  refine ⟨?_, hg, hl.remembers.ordered, ?_⟩
  · rintro events ⟨rest, hc⟩
    refine not_mem_ingressBlocks_replay ?_ fun e he => hl.regular e ?_
    · exact foldRead_of_append (hc ▸ hl.ingress.readable)
    · rw [← hc]
      exact mem_append_left _ he
  · intro agentId sessionId ingressFence io hk fence hr
    obtain ⟨_, hr', hle⟩ := hg _ _ hr
    have hi : Sound unrestricted (callRun S (before ++ after)).journal (io.file 0) := .inl trivial
    rcases enterRecoveryOnlyOwner_cases hl.coherent.ordered hi agentId sessionId ingressFence with
      ⟨-, hf⟩ | ⟨ha, -⟩
    · simp [hf] at hk
    · have hfr := ha.fresh
      rw [hr'] at hfr
      exact UInt64.lt_of_le_of_lt hle (by simpa using hfr)

def sampleIngress (fence : UInt64) : Call :=
  .act (.enterRecoveryOnlyOwner "agent" "session" fence {})

def sampleRelease (fence : UInt64) : Call :=
  .act (.auditAndReleaseSessionOwnerFence "agent" "session" true fence {})

/-- The small service with the asynchronous writer, whose critical records do not wait for it. -/
def asyncSampleService : Service := { sampleService with config := { asyncEnabled := true } }

/-- A recovery-only record is not critical: a process that dies before it is synced forgets the
owner, and its successor accepts a lower fence. Where critical records are written past the queue,
the release comes before the record of the owner it resumes, and replay blocks. -/
theorem recovery_ingress_falls :
    (callRun sampleService [sampleIngress 5, .act (.restart {}), sampleIngress 3]).acknowledged =
      [.recoveryOnly "agent" "session" 3, .recoveryOnly "agent" "session" 5] ∧
    (callRun asyncSampleService [sampleIngress 5, sampleRelease 5]).resumedRecoveryIngress.lookup
      (ownerKey "agent" "session") = some 5 ∧
    (Coordinator.replay (callRun asyncSampleService
      [sampleIngress 5, sampleRelease 5]).journal.records).mutationBlockReason =
        "OMS_USER_RECOVERY_RELEASE_INVALID" ∧
    (callRun asyncSampleService [sampleIngress 5, sampleRelease 5, .act (.restart {})]).mutationBlockReason =
      "OMS_USER_RECOVERY_RELEASE_INVALID" := by
  decide

/-- A release syncs the record of the owner it resumes with its own, so that the fence is known
after a restart. -/
theorem recovery_ingress_rises_over_restart :
    ∃ fence, (callRun sampleService [sampleIngress 5, sampleRelease 5,
      .act (.restart {})]).resumedRecoveryIngress.lookup (ownerKey "agent" "session") = some fence ∧
        5 ≤ fence := by
  have hm : callsMeet sampleService (onActions (ingressSafe sampleService)) {}
      ([sampleIngress 5, sampleRelease 5] ++ [.act (.restart {})]) := by
    refine ⟨trivial, fun ha => absurd ha (by decide), ⟨rfl, ?_⟩, trivial⟩
    decide
  exact (recovery_ingress_rises sampleService _ _ hm).2.1 _ 5 (by decide)

end Hepta
