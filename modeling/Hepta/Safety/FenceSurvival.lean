import Hepta.Safety.Ingress

/-!
# Fences over a crash

A fence that was reported should still be there after a crash. Only the account fence is written
through; the records of a recovery-only owner and of the terminal fence wait in a buffer, and a
second call for an account fenced in memory reports success without a record. Where no record is
missing or lost, every reported fence survives.
-/

namespace Hepta

open Coordinator List OmsJournal Hepta.System

/-! ### The records of the fences in replay -/

def HoldsAccount (records : List OmsJournalEvent) (account : String) : Prop :=
  ∃ e ∈ records, e.eventType = .accountNewEntryFenced ∧ e.account = account

namespace Coordinator

variable {c c' : Coordinator} {event : OmsJournalEvent} {events : List OmsJournalEvent}

lemma accountNewEntryFences_applyRecoveredOwnershipEvent
    (h : c.applyRecoveredOwnershipEvent event = some c') :
    c.accountNewEntryFences ⊆ c'.accountNewEntryFences := by
  unfold applyRecoveredOwnershipEvent at h
  split at h <;> (try simp only [Option.some.injEq, reduceCtorEq] at h) <;> subst h
  · unfold applyRecoveredAccountFence
    split_ifs
    · exact Finset.Subset.refl _
    · exact Finset.subset_insert _ _
  · exact Finset.Subset.refl _
  · simp only [applyRecoveredRecoveryOnly]
    split
    · exact Finset.Subset.refl _
    · split_ifs <;> exact Finset.Subset.refl _
  · simp only [applyRecoveredRelease]
    split
    · split_ifs <;> exact Finset.Subset.refl _
    · exact Finset.Subset.refl _
    · split_ifs <;> exact Finset.Subset.refl _
  · exact Finset.Subset.refl _
  · unfold applyRecoveredPaperTerminalFence
    split
    · exact Finset.Subset.refl _
    · split_ifs <;> exact Finset.Subset.refl _

lemma accountNewEntryFences_applyRecoveredEvent (c : Coordinator) (event : OmsJournalEvent) :
    c.accountNewEntryFences ⊆ (c.applyRecoveredEvent event).accountNewEntryFences := by
  by_cases hr : event.eventType = .executionProjectionResolved
  · simp only [applyRecoveredEvent, hr, if_true, applyRecoveredProjectionResolved]
    split_ifs <;> exact Finset.Subset.refl _
  cases hc : event.isCommand with
  | true =>
    rw [applyRecoveredEvent_of_isCommand hc]
    simp only [applyRecoveredCommandEvent, trackRecoveredSendAttempt]
    split_ifs <;> exact Finset.Subset.refl _
  | false =>
    rcases applyRecoveredEvent_of_not_isCommand (c := c) hc hr with ⟨-, h⟩ | ⟨-, h⟩
    · rw [h]
    · exact accountNewEntryFences_applyRecoveredOwnershipEvent h

lemma mem_accountNewEntryFences_of_record (hr : event.FenceRecord)
    (ht : event.eventType = .accountNewEntryFenced) (c : Coordinator) :
    event.account ∈ (c.applyRecoveredEvent event).accountNewEntryFences := by
  obtain ⟨hnamed, ha⟩ := hr.named
  simp only [applyRecoveredEvent, ht, hnamed, ha, reduceCtorEq, if_false, or_self,
    applyRecoveredOwnershipEvent]
  cases hr with
  | account tsMs agent session command account =>
    rw [applyRecoveredAccountFence, if_neg]
    · exact Finset.mem_insert_self _ _
    · simp only [not_or, not_not]
      exact ⟨ha, account, command, session, rfl, rfl, rfl⟩
  | session | recoveryOnly | release | terminal => cases ht

lemma mem_accountNewEntryFences_recovered (hm : event ∈ events)
    (hr : event.FenceRecord) (ht : event.eventType = .accountNewEntryFenced) :
    event.account ∈ (recovered events).accountNewEntryFences := by
  have hp : event.account ∈ (replay events).accountNewEntryFences := by
    obtain ⟨_, back, rfl⟩ := append_of_mem hm
    rw [replay, foldl_append, foldl_cons]
    exact foldlRecOn back applyRecoveredEvent
      (motive := fun c => event.account ∈ c.accountNewEntryFences)
      (mem_accountNewEntryFences_of_record hr ht _)
      fun c h e _ => accountNewEntryFences_applyRecoveredEvent c e h
  unfold recovered validateRecovered
  split_ifs <;> exact hp

lemma terminal_fenceStep {fences : FenceState} (h : fences.terminal = true) (event : OmsJournalEvent) :
    (fenceStep fences event).terminal = true := by
  unfold fenceStep
  simp only []
  split_ifs
  · exact h
  split
  · split
    · exact h
    · split_ifs <;> exact h
  · split
    · split_ifs <;> exact h
    · exact h
  · simp [h]
  · exact h

lemma terminal_foldFences (hm : event ∈ events) (hr : event.FenceRecord)
    (ht : event.eventType = .paperTerminalFence) : (foldFences events).terminal = true := by
  obtain ⟨_, back, rfl⟩ := append_of_mem hm
  rw [foldFences, foldl_append, foldl_cons]
  refine foldlRecOn back fenceStep (motive := fun fences : FenceState => fences.terminal = true)
    ?_ fun fences h e _ => terminal_fenceStep h e
  cases hr with
  | terminal tsMs valid => rw [fenceStep_terminal valid]
  | account | session | recoveryOnly | release => cases ht

lemma holdsTerminal_of_terminal
    (h : (foldFences events).terminal = true) : HoldsTerminal events := by
  refine foldlRecOn events fenceStep (b := {}) (motive := fun fences : FenceState =>
    fences.terminal = true → HoldsTerminal events) (by simp) ?_ h
  intro fences ih event hm ht
  have hc := fenceStep_change fences event
  generalize fenceStep fences event = fences' at hc ht
  cases hc with
  | none | ingress | resume => exact ih ht
  | halt _ type => exact ⟨event, hm, type⟩

end Coordinator

/-! ### The fences on record -/

variable {S : Service} {s s' : System} {e : OmsJournalEvent} {action : Action}

lemma HoldsAccount.mono {records records' : List OmsJournalEvent} {account : String}
    (h : HoldsAccount records account) (hs : records ⊆ records') : HoldsAccount records' account := by
  obtain ⟨e, he, ht⟩ := h
  exact ⟨e, hs he, ht⟩

/-- Every fence that was reported, and the terminal fence in memory, is on record. -/
structure Documented (s : System) : Prop where
  accounts : ∀ account, .account account ∈ s.acknowledged → HoldsAccount s.journal.records account
  terminal : .paperTerminal ∈ s.acknowledged → HoldsTerminal s.journal.records
  present : s.paperTerminalFencePresent = true → HoldsTerminal s.journal.records

lemma Documented.of_subset (h : Documented s) (hs : s.journal.records ⊆ s'.journal.records)
    (ha : ∀ account, .account account ∈ s'.acknowledged →
      .account account ∈ s.acknowledged ∨ HoldsAccount s'.journal.records account)
    (ht : .paperTerminal ∈ s'.acknowledged ∨ s'.paperTerminalFencePresent = true →
      .paperTerminal ∈ s.acknowledged ∨ s.paperTerminalFencePresent = true ∨
        HoldsTerminal s'.journal.records) : Documented s' := by
  have hh : .paperTerminal ∈ s'.acknowledged ∨ s'.paperTerminalFencePresent = true →
      HoldsTerminal s'.journal.records := by
    intro hw
    rcases ht hw with ho | ho | hw
    · exact (h.terminal ho).mono hs
    · exact (h.present ho).mono hs
    · exact hw
  refine ⟨fun account hm => ?_, fun hm => hh (.inl hm), fun hm => hh (.inr hm)⟩
  rcases ha account hm with ho | hw
  · exact (h.accounts account ho).mono hs
  · exact hw

lemma Documented.of_kept (h : Documented s) (hs : s.journal.records ⊆ s'.journal.records)
    (ha : ∀ ack ∈ s'.acknowledged, ack ∈ s.acknowledged ∨
      ∃ agentId sessionId fence, ack = .recoveryOnly agentId sessionId fence)
    (hp : s'.paperTerminalFencePresent = s.paperTerminalFencePresent) : Documented s' :=
  h.of_subset hs (fun _ hm => .inl ((ha _ hm).resolve_right (by simp)))
    fun hm => hm.imp (fun hm => (ha _ hm).resolve_right (by simp))
      fun hm => .inl (hp ▸ hm)

lemma records_subset_of_append {j j' : OmsJournal}
    (h : Appended S e j j' ∨ Refused S unrestricted e j j') : j.records ⊆ j'.records := by
  obtain ⟨_, hj, -⟩ := journaled_of_append h
  exact fun b hb => hj.mem_records.mpr (.inr hb)

/-- A second call for an account finds its record; no release overtakes a record of the fences; a
recovery reads the journal or meets a poisoned writer; and a process that dies leaves the records of
the fences synced. -/
def System.fenceSafe (S : Service) (s : System) : Action → Prop
  | .enterAccountNewEntryFence context _ => context.account ∈ s.accountNewEntryFences →
      HoldsAccount s.journal.records context.account
  | .auditAndReleaseSessionOwnerFence .. => s.releaseInOrder S
  | .recoverFromJournal io => s.journal.writePoisoned = true ∨ io = {}
  | .restart io => io = {} ∧ ∀ e ∈ s.journal.unsynced ++ s.journal.pending,
      e.eventType ≠ .accountNewEntryFenced ∧ e.eventType ≠ .sessionOwnerRecoveryOnly ∧
        e.eventType ≠ .paperTerminalFence
  | _ => True

def System.fencesKept (S : Service) (s : System) : Call → Prop
  | .act action => s.fenceSafe S action
  | .resetMutationBlockAfterReconcile => s.resetsReconciled

lemma System.fenceSafe.ingressKept (h : s.fenceSafe S action) : s.ingressKept S action := by
  cases action with
  | auditAndReleaseSessionOwnerFence => exact h
  | recoverFromJournal => exact h
  | restart => exact ⟨h.1, fun e he => (h.2 e he).2.1⟩
  | _ => trivial

lemma Documented.fence (hc : Coherent S s) (h : Documented s) (hfn : action.isFence = true)
    (hsf : s.fenceSafe S action) : Documented (s.step S action) := by
  have hi : ∀ io : Io, Sound unrestricted s.journal (io.file 0) := fun _ => .inl trivial
  cases action with
  | enterAccountNewEntryFence context io =>
    simp only [step]
    rcases enterAccountNewEntryFence_cases hc.ordered (hi io) context with
      hs' | ⟨hf, hs'⟩ | ⟨-, j', ⟨ha, hs'⟩ | ⟨hr, hs'⟩⟩ <;> rw [hs']
    · exact h
    · refine h.of_subset (List.Subset.refl _) (fun account hm => ?_)
        (by simpa using fun hm => hm.imp_right .inl)
      rcases List.mem_cons.mp hm with heq | hm
      · obtain rfl := FenceAcknowledgement.account.inj heq
        exact .inr (hsf hf)
      · exact .inl hm
    · refine h.of_subset (records_subset_of_append (.inl ha)) (fun account hm => ?_)
        (by simpa [setJournal] using fun hm => hm.imp_right .inl)
      rcases List.mem_cons.mp hm with heq | hm
      · obtain rfl := FenceAcknowledgement.account.inj heq
        exact .inr ⟨_, ha.enters.mem_records.mpr (.inl rfl), rfl, rfl⟩
      · exact .inl hm
    · exact h.of_kept (records_subset_of_append (.inr hr)) (fun _ hm => .inl hm) rfl
  | fenceSessionOwner agentId sessionId io =>
    simp only [step]
    rcases fenceSessionOwner_cases hc.ordered (hi io) agentId sessionId with
      hs' | ⟨e, j', -, -, ⟨ha, hs'⟩ | ⟨hr, hs'⟩⟩ <;> rw [hs']
    · exact h
    · exact h.of_kept (records_subset_of_append (.inl ha)) (fun _ hm => .inl hm) rfl
    · exact h.of_kept (records_subset_of_append (.inr hr)) (fun _ hm => .inl hm) rfl
  | enterRecoveryOnlyOwner agentId sessionId ingressFence io =>
    have hac : ∀ ack ∈ .recoveryOnly agentId sessionId ingressFence :: s.acknowledged,
        ack ∈ s.acknowledged ∨
          ∃ agentId sessionId fence, ack = .recoveryOnly agentId sessionId fence := fun ack hm =>
      (List.mem_cons.mp hm).symm.imp_right fun heq => ⟨_, _, _, heq⟩
    simp only [step]
    rcases enterRecoveryOnlyOwner_cases hc.ordered (hi io) agentId sessionId ingressFence with
      ⟨hs', -⟩ | ⟨-, ⟨-, hs'⟩ | ⟨toolCallId, j', -, ⟨ha, hs'⟩ | ⟨hr, hs', -⟩⟩⟩ <;> rw [hs']
    · exact h
    · exact h.of_kept (List.Subset.refl _) hac rfl
    · exact h.of_kept (records_subset_of_append (.inl ha)) hac rfl
    · exact h.of_kept (records_subset_of_append (.inr hr)) (fun _ hm => .inl hm) rfl
  | auditAndReleaseSessionOwnerFence agentId sessionId complete expectedFence io =>
    simp only [step]
    rcases auditAndReleaseSessionOwnerFence_cases hc.ordered (hi io) agentId sessionId complete
      expectedFence with hs' | ⟨-, -, -, -, toolCallId, j', -, ⟨ha, hs'⟩ | ⟨hr, hs'⟩⟩ <;> rw [hs']
    · exact h
    · exact h.of_kept (records_subset_of_append (.inl ha)) (fun _ hm => .inl hm) rfl
    · exact h.of_kept (records_subset_of_append (.inr hr)) (fun _ hm => .inl hm) rfl
  | enterPaperTerminalFenceAndProject binding hashed io =>
    have ho : ∀ {acknowledged : List FenceAcknowledgement},
        acknowledged = s.acknowledged ∨ acknowledged = .paperTerminal :: s.acknowledged →
        ∀ {account}, .account account ∈ acknowledged → .account account ∈ s.acknowledged := by
      rintro _ (rfl | rfl) account hm
      · exact hm
      · simpa using hm
    simp only [step]
    rcases enterPaperTerminalFenceAndProject_cases hc.ordered (hi io) binding hashed with
      hs' | ⟨hp, acknowledged, hac, hs'⟩ |
      ⟨-, -, -, j', ⟨ha, acknowledged, hac, hs'⟩ | ⟨hr, hs'⟩⟩ <;> rw [hs']
    · exact h
    · exact h.of_subset (List.Subset.refl _) (fun _ hm => .inl (ho hac hm))
        fun _ => .inr (.inl hp)
    · exact h.of_subset (records_subset_of_append (.inl ha))
        (fun _ hm => .inl (ho hac hm))
        fun _ => .inr (.inr ⟨_, ha.enters.mem_records.mpr (.inl rfl), rfl⟩)
    · exact h.of_kept (records_subset_of_append (.inr hr)) (fun _ hm => .inl hm) rfl
  | _ => simp [Action.isFence] at hfn

lemma Documented.recoverFromJournal (hc : Coherent S s) (h : Documented s) (io : RecoverIo) :
    Documented (s.recoverFromJournal io).1 := by
  rcases recoverFromJournal_cases hc.ordered hc.inFlight io with
    ⟨-, hs'⟩ | ⟨-, j', hs', hr, -⟩ | ⟨-, j', reason, hs', hq, -⟩ <;> rw [hs']
  · exact h
  · refine ⟨?_, ?_, fun hp => ?_⟩
    · simpa only [hr] using h.accounts
    · simpa only [hr] using h.terminal
    · have ht : (Coordinator.recovered j'.records).fences.terminal = true := hp
      rw [fences_recovered] at ht
      exact holdsTerminal_of_terminal ht
  · refine ⟨?_, ?_, nofun⟩
    · simpa only [hq.records] using h.accounts
    · simpa only [hq.records] using h.terminal

lemma mem_synced_of_lost {j : OmsJournal} (he : e ∈ j.records)
    (hl : e ∉ j.unsynced ++ j.pending) : e ∈ j.synced := by
  rw [records_eq_synced_append] at he
  exact (List.mem_append.mp he).resolve_right hl

lemma restart_eq (S : Service) (s : System) : ∃ j', (s.restart {}).1 =
    { s.crash with toCoordinator := Coordinator.recovered s.journal.synced, journal := j' } ∧
      j'.records = s.journal.synced := by
  have ho : Ordered S.config s.crash.journal := afterCrash_ordered _
  rcases recoverFromJournal_cases (s := s.crash) ho rfl {} with
    ⟨hb, -⟩ | ⟨-, j', hs', hr, -⟩ | ⟨-, -, -, -, -, -, -, hf⟩
  · simp [crash] at hb
  · have hy : j'.records = s.journal.synced := hr.trans (afterCrash_records _)
    exact ⟨j', by rw [restart, hs', hy], hy⟩
  · exact absurd ⟨rfl, rfl⟩ hf

/-- The fences on record are among the records that a crash leaves. -/
lemma Documented.synced (h : Documented s) (hs : s.fenceSafe S (.restart {})) :
    (∀ account, .account account ∈ s.acknowledged → HoldsAccount s.journal.synced account) ∧
      (.paperTerminal ∈ s.acknowledged → HoldsTerminal s.journal.synced) := by
  constructor
  · intro account hm
    obtain ⟨e, he, ht, ha⟩ := h.accounts account hm
    exact ⟨e, mem_synced_of_lost he fun hl => (hs.2 e hl).1 ht, ht, ha⟩
  · intro hm
    obtain ⟨e, he, ht⟩ := h.terminal hm
    exact ⟨e, mem_synced_of_lost he fun hl => (hs.2 e hl).2.2 ht, ht⟩

lemma Documented.restart (S : Service) (h : Documented s) (hf : s.fenceSafe S (.restart {})) :
    Documented (s.restart {}).1 := by
  obtain ⟨_, hs', hr⟩ := restart_eq S s
  obtain ⟨ha, ht⟩ := h.synced hf
  rw [hs']
  refine ⟨?_, ?_, fun hp => ?_⟩
  · simpa only [hr, crash] using ha
  · simpa only [hr, crash] using ht
  · have ht : (Coordinator.recovered s.journal.synced).fences.terminal = true := hp
    rw [fences_recovered] at ht
    simpa only [hr] using holdsTerminal_of_terminal ht

/-- A state on the way of a run that keeps its fences. -/
structure KeepsFences (S : Service) (s : System) : Prop where
  coherent : Coherent S s
  regular : ∀ e ∈ s.journal.records, e.Regular
  halted : Halted s
  ingress : Ingress s
  documented : Documented s

lemma KeepsFences.call (h : KeepsFences S s) {call : Call} (hk : s.fencesKept S call) :
    KeepsFences S (s.call S call) := by
  cases call with
  | act action =>
    have hv := step_moves h.coherent (.inl trivial) (permits_unrestricted s action)
    refine ⟨Moves.coherent h.coherent hv, Moves.regular h.regular hv,
      Moves.halted h.coherent h.halted hv, h.ingress.step h.coherent hk.ingressKept, ?_⟩
    simp only [System.call]
    cases hfn : action.isFence with
    | true => exact h.documented.fence h.coherent hfn hk
    | false =>
      cases hr : action.isRecovery with
      | false =>
        have hu := unfenced_step h.coherent hfn hr
        obtain ⟨_, hj, -⟩ := hu.journaled
        have ha : (s.step S action).acknowledged = s.acknowledged :=
          congrArg FenceView.acknowledged hu.fences
        exact h.documented.of_kept (fun b hb => hj.mem_records.mpr (.inr hb)) (fun _ hm => .inl
          (ha ▸ hm)) (congrArg FenceView.paperTerminalFencePresent hu.fences)
      | true =>
        cases action with
        | recoverFromJournal => exact h.documented.recoverFromJournal h.coherent ..
        | restart io =>
          obtain rfl : io = {} := hk.1
          exact h.documented.restart S hk
        | _ => simp [Action.isRecovery] at hr
  | resetMutationBlockAfterReconcile =>
    have hjr : s.resetMutationBlockAfterReconcile.journal = s.journal := by
      unfold resetMutationBlockAfterReconcile
      split_ifs <;> rfl
    have hf := (unfenced_reset (S := S) s).fences
    have ha : s.resetMutationBlockAfterReconcile.acknowledged = s.acknowledged :=
      congrArg FenceView.acknowledged hf
    refine ⟨h.coherent.reset, fun e he => h.regular e (hjr ▸ he), h.halted.reset hk,
      h.ingress.of_unfenced (unfenced_reset (S := S) s), ?_⟩
    exact h.documented.of_kept (fun e he => hjr ▸ he) (fun _ hm => .inl (ha ▸ hm))
      (congrArg FenceView.paperTerminalFencePresent hf)

lemma keepsFences_start : KeepsFences S {} :=
  ⟨coherent_start, by simp [records, written, pending],
    ⟨by simp [records, written, pending], List.Pairwise.nil, by
      rintro ⟨e, he, -⟩
      simp [records, written, pending] at he⟩, ingress_start, by simp, by simp, by simp⟩

/-! ### After the crash -/

/-- The owner was resumed, by one of these records, from this fence or a higher one. -/
def Released (records : List OmsJournalEvent) (agentId sessionId : String) (fence : UInt64) : Prop :=
  ∃ e ∈ records, e.eventType = .sessionOwnerFenceRelease ∧
    ownerKey e.agentId e.traceId = ownerKey agentId sessionId ∧
    ∃ resumed, userRecoveryFence e.status = some (some resumed) ∧ fence ≤ resumed

/-- The fence that was reported is in force, or an owner was released by one of the records. -/
def FenceAcknowledgement.Survives (records : List OmsJournalEvent) (s : System) :
    FenceAcknowledgement → Prop
  | .account fenced => fenced ∈ s.accountNewEntryFences
  | .recoveryOnly agentId sessionId fence => Released records agentId sessionId fence ∨
      ∃ held, s.recoveryOnlySessionOwners.lookup (ownerKey agentId sessionId) = some held ∧ fence ≤ held
  | .paperTerminal => s.mutationBlocked = true ∧ s.paperTerminalFencePresent = true

/-- In every run that keeps its fences on record, a crash leaves every fence that was reported in
force, unless its release was synced. -/
theorem acknowledged_fences_survive (S : Service) (calls : List Call) (io : RecoverIo)
    (h : callsMeet S (fencesKept S) {} (calls ++ [.act (.restart io)])) :
    ∀ ack ∈ (callRun S calls).acknowledged,
      ack.Survives (callRun S calls).journal.synced (callRun S (calls ++ [.act (.restart io)])) := by
  obtain ⟨hc, hlast, -⟩ := callsMeet_append h
  have hk : KeepsFences S (callRun S calls) :=
    calls_induction (P := KeepsFences S) (fun _ _ hs hkp => hs.call hkp) keepsFences_start hc
  have hrn : callRun S (calls ++ [.act (.restart io)]) = ((callRun S calls).restart io).1 := by
    simp [callRun, System.call, step]
  change (callRun S calls).fenceSafe S (.restart io) at hlast
  rw [hrn]
  generalize callRun S calls = s at hk hlast ⊢
  obtain rfl : io = {} := hlast.1
  obtain ⟨ha, htr⟩ := hk.documented.synced hlast
  obtain ⟨_, hs', -⟩ := restart_eq S s
  have hy : ∀ {e}, e ∈ s.journal.synced → e ∈ s.journal.records :=
    fun he => synced_subset_records _ he
  intro ack hm
  cases ack with
  | account account =>
    obtain ⟨e, he, ht, rfl⟩ := ha account hm
    have hr := (hk.regular e (hy he)).fence (by rw [ht]; rfl)
    rw [hs']
    exact mem_accountNewEntryFences_recovered he hr ht
  | recoveryOnly agentId sessionId fence =>
    obtain ⟨hi, hsn, hf⟩ := hk.ingress.restart S fun e he => (hlast.2 e he).2.1
    have hst := hi.acknowledged agentId sessionId fence hm
    rw [← hi.mirrored hsn, hf] at hst
    rcases hst with ⟨held, hh, hl⟩ | ⟨resumed, hrs, hl⟩
    · refine .inr ⟨held, ?_, hl⟩
      rw [← hf] at hh
      exact hh
    · obtain ⟨e, he, ht, hky, hstatus⟩ := release_of_resumed hrs
      exact .inl ⟨e, he, ht, hky, resumed, hstatus, hl⟩
  | paperTerminal =>
    obtain ⟨e, he, ht⟩ := htr hm
    have hr := hk.halted.written e (hy he) ht
    have hsl : Sealed s.journal.synced :=
      hk.halted.closing.sublist (synced_sublist_records s.journal)
    have hp : (Coordinator.recovered s.journal.synced).fences.terminal = true := by
      rw [fences_recovered]
      exact terminal_foldFences he hr ht
    rw [hs']
    exact ⟨(hsl.barred he ht hr).1, hp⟩

def sampleAccountFence (io : Io) : Call :=
  .act (.enterAccountNewEntryFence (sampleContext "fence") io)

/-- An account whose record was refused is reported as fenced at the second call and free after a
crash; a recovery-only owner and the terminal fence are gone with their buffered records. -/
theorem acknowledged_fences_lost :
    (.account "account" ∈ (callRun sampleService [sampleAccountFence
        { file := fun _ => { refused := true } }, sampleAccountFence {}]).acknowledged ∧
      (callRun sampleService [sampleAccountFence { file := fun _ => { refused := true } },
        sampleAccountFence {}, .act (.restart {})]).accountNewEntryFences = ∅) ∧
    (.recoveryOnly "agent" "session" 5 ∈ (callRun sampleService [sampleIngress 5]).acknowledged ∧
      (callRun sampleService [sampleIngress 5]).journal.synced = [] ∧
      (callRun sampleService [sampleIngress 5, .act (.restart {})]).recoveryOnlySessionOwners = ∅) ∧
    (.paperTerminal ∈ (callRun sampleService [sampleTerminalFence]).acknowledged ∧
      (callRun sampleService [sampleTerminalFence,
        .act (.restart {})]).paperTerminalFencePresent = false) := by
  decide

/-- The record of an account fence is synced before the fence is reported. -/
theorem account_fence_survives :
    .account "account" ∈ (callRun sampleService [sampleAccountFence {}]).acknowledged ∧
      "account" ∈ (callRun sampleService
        ([sampleAccountFence {}] ++ [.act (.restart {})])).accountNewEntryFences := by
  have ha : .account "account" ∈
      (callRun sampleService [sampleAccountFence {}]).acknowledged := by decide
  have hm : callsMeet sampleService (fencesKept sampleService) {}
      ([sampleAccountFence {}] ++ [.act (.restart {})]) := by
    refine ⟨fun hf => ?_, ⟨rfl, ?_⟩, trivial⟩
    · exact absurd hf (by decide)
    · decide
  exact ⟨ha, acknowledged_fences_survive sampleService _ {} hm _ ha⟩

end Hepta
