import Hepta.Execution.Move

/-!
# The moves of fences, order owners and recovery

The control operations write records that concern no command, or none at all.
-/

namespace Hepta

open Option OmsJournal RequestRecord

namespace System

variable {S : Service} {A : Allowance} {s s' : System} {io : Io} {file : AppendIo}

/-! ### Fences -/

lemma append_ne_empty {a b : String} (h : a ≠ "") : a ++ b ≠ "" := by
  intro ha
  exact h (String.append_eq_empty_iff.mp ha).1

lemma fence_move {e : OmsJournalEvent} (hl : A.fence) (he : e.FenceRecord)
    (hj : Appended S e s.journal s'.journal ∨ Refused S A e s.journal s'.journal)
    (hrq : s'.requests = s.requests) (ho : s'.orderOwners = s.orderOwners)
    (hf : s'.flightView = s.flightView) (hb : Blocks isLasting s s')
    (hi : s'.sendIndex = s.sendIndex := by rfl)
    (hh : e.eventType = .paperTerminalFence → s'.mutationBlocked = true ∧
      isLasting s'.mutationBlockReason = true ∧ s'.venueDispatchesInFlight = 0 := by rintro ⟨⟩) :
    Move S A s s' := by
  rcases hj with ha | hr
  · exact .fenced hl (.enter ha.enters (.quiet (Quiet.refl _))) ha.ordered
      (.inr ha.soundAfter) (by simpa using he) hrq ho hf hb hi
      (fun hp => absurd hp (by simp [ha.sound]))
      (by simpa using fun ht => .inr (hh ht))
  · rcases hr.spoils with hq | ⟨hen, hs⟩
    · exact .fenced hl (.quiet hq) hr.ordered (.inl hr.fault) (by simp) hrq ho
        hf hb hi (fun hp => hr.poisoned hp ▸ hp) (by simp)
    · exact .fenced hl (.enter hen (.quiet (Quiet.refl _))) hr.ordered
        (.inl hr.fault) (by simpa using he) hrq ho hf hb hi
        (fun hp => hr.poisoned hp ▸ hp) (fun _ _ _ => .inl hs)

/-- A fence operation that writes nothing. -/
lemma fence_quiet_move (h : Coherent S s) (ha : A.fence)
    (hio : Sound A s.journal file) (hj : s'.journal = s.journal) (hr : s'.requests = s.requests)
    (ho : s'.orderOwners = s.orderOwners) (hf : s'.flightView = s.flightView)
    (hb : Blocks isLasting s s') (hi : s'.sendIndex = s.sendIndex := by rfl) :
    Move S A s s' := by
  have hd : Journaled S.config s.journal [] s'.journal := hj ▸ .quiet (Quiet.refl _)
  exact .fenced ha hd (hj ▸ h.ordered) (hj ▸ hio.imp_right And.left) (by simp) hr
    ho hf hb hi (fun hp => hj ▸ hp) (by simp)

lemma Blocks.refl (reasons : String → Bool) (s : System) : Blocks reasons s s := .inl ⟨rfl, rfl⟩

lemma enterAccountNewEntryFence_cases (ho : Ordered S.config s.journal)
    (hi : Sound A s.journal (io.file 0)) (context : AgentExecutionContext) :
    (s.enterAccountNewEntryFence S context io).1 = s ∨
    (context.account ∈ s.accountNewEntryFences ∧ (s.enterAccountNewEntryFence S context io).1 =
      { s with acknowledged := .account context.account :: s.acknowledged }) ∨
    ((accountFenceEvent (io.clock 0) context).FenceRecord ∧ ∃ j',
      (Appended S (accountFenceEvent (io.clock 0) context) s.journal j' ∧
        (s.enterAccountNewEntryFence S context io).1 = { s.setJournal j' with
          accountNewEntryFences := insert context.account s.accountNewEntryFences
          acknowledged := .account context.account :: s.acknowledged }) ∨
      (Refused S A (accountFenceEvent (io.clock 0) context) s.journal j' ∧
        (s.enterAccountNewEntryFence S context io).1 = { (s.setJournal j').block
            "OMS_ACCOUNT_NEW_ENTRY_FENCE_WRITE_FAILED" with
          accountNewEntryFences := insert context.account s.accountNewEntryFences })) := by
  unfold enterAccountNewEntryFence
  split_ifs with hc hf
  · exact .inl rfl
  · exact .inr (.inl ⟨hf, rfl⟩)
  · simp only [not_or] at hc
    refine .inr (.inr ⟨.account _ hc.1 hc.2.1 hc.2.2.1 hc.2.2.2, ?_⟩)
    rcases appendOrBlock_cases (s := { s with
        accountNewEntryFences := insert context.account s.accountNewEntryFences }) ho hi
      (accountFenceEvent (io.clock 0) context) "OMS_ACCOUNT_NEW_ENTRY_FENCE_WRITE_FAILED" with
      ⟨j', heq, ha⟩ | ⟨j', heq, hr⟩ <;> simp only [accountFenceEvent] at heq
    · exact ⟨j', .inl ⟨ha, by simp only [heq]; rfl⟩⟩
    · exact ⟨j', .inr ⟨hr, by simp only [heq]; rfl⟩⟩

theorem enterAccountNewEntryFence_moves (h : Coherent S s) (ha : A.fence)
    (hi : ∀ n, Sound A s.journal (io.file n)) (context : AgentExecutionContext) :
    Moves S A s (s.enterAccountNewEntryFence S context io).1 := by
  rcases enterAccountNewEntryFence_cases h.ordered (hi 0) context with
    hs' | ⟨-, hs'⟩ | ⟨he, j', ⟨hp, hs'⟩ | ⟨hr, hs'⟩⟩ <;> rw [hs']
  · exact .single (fence_quiet_move h ha (hi 0) rfl rfl rfl rfl (Blocks.refl _ _))
  · exact .single (fence_move ha he (.inl hp) rfl rfl rfl (.inl ⟨rfl, rfl⟩))
  · exact .single (fence_move ha he (.inr hr) rfl rfl rfl (.inr ⟨rfl, rfl⟩))

lemma fenceSessionOwner_cases (ho : Ordered S.config s.journal)
    (hi : Sound A s.journal (io.file 0)) (agentId sessionId : String) :
    (s.fenceSessionOwner S agentId sessionId io).1 = s ∨
    ∃ e j', e.FenceRecord ∧ e.eventType = .sessionOwnerFenced ∧
      ((Appended S e s.journal j' ∧ (s.fenceSessionOwner S agentId sessionId io).1 =
        { s.setJournal j' with
          fencedSessionOwners := insert (ownerKey agentId sessionId) s.fencedSessionOwners }) ∨
      (Refused S A e s.journal j' ∧ (s.fenceSessionOwner S agentId sessionId io).1 =
        { (s.setJournal j').block "OMS_SESSION_FENCE_JOURNAL_FAILED" with
          fencedSessionOwners := insert (ownerKey agentId sessionId) s.fencedSessionOwners })) := by
  unfold fenceSessionOwner
  simp only []
  split_ifs with hc hf
  · exact .inl rfl
  · exact .inl rfl
  · rw [not_or] at hc
    refine .inr ⟨sessionFenceEvent (io.clock 1) agentId sessionId
      ("session-owner-fenced-" ++ toString (io.clock 0)), ?_⟩
    rcases appendOrBlock_cases (s := { s with
        fencedSessionOwners := insert (ownerKey agentId sessionId) s.fencedSessionOwners }) ho hi
      (sessionFenceEvent (io.clock 1) agentId sessionId
        ("session-owner-fenced-" ++ toString (io.clock 0)))
      "OMS_SESSION_FENCE_JOURNAL_FAILED" with ⟨j', heq, ha⟩ | ⟨j', heq, hr⟩ <;>
      simp only [sessionFenceEvent] at heq <;>
      refine ⟨j', .session _ hc.1 (append_ne_empty (by decide)), rfl, ?_⟩
    · exact .inl ⟨ha, by simp only [heq]; rfl⟩
    · exact .inr ⟨hr, by simp only [heq]; rfl⟩

theorem fenceSessionOwner_moves (h : Coherent S s) (ha : A.fence)
    (hi : ∀ n, Sound A s.journal (io.file n)) (agentId sessionId : String) :
    Moves S A s (s.fenceSessionOwner S agentId sessionId io).1 := by
  rcases fenceSessionOwner_cases h.ordered (hi 0) agentId sessionId with
    hs' | ⟨e, j', he, ht, ⟨hp, hs'⟩ | ⟨hr, hs'⟩⟩ <;> rw [hs']
  · exact .single (fence_move ha he (.inl hp) rfl rfl rfl (.inl ⟨rfl, rfl⟩) rfl
      (by simp [ht]))
  · exact .single (fence_move ha he (.inr hr) rfl rfl rfl (.inr ⟨rfl, rfl⟩) rfl
      (by simp [ht]))

/-- A recovery-only owner is reported. -/
def acknowledgeRecoveryOnly (s : System) (agentId sessionId : String) (ingressFence : UInt64) :
    System :=
  { s with
    recoveryOnlySessionOwners :=
      s.recoveryOnlySessionOwners.insert (ownerKey agentId sessionId) ingressFence
    acknowledged := .recoveryOnly agentId sessionId ingressFence :: s.acknowledged }

/-- The checks that an accepted recovery-only owner has passed. -/
structure IngressAccepted (s : System) (agentId sessionId : String) (ingressFence : UInt64) :
    Prop where
  agent : agentId ≠ ""
  positive : ingressFence ≠ 0
  fresh : (s.resumedRecoveryIngress.lookup (ownerKey agentId sessionId)).any
    (ingressFence ≤ ·) = false
  rising : (s.recoveryOnlySessionOwners.lookup (ownerKey agentId sessionId)).any
    (ingressFence < ·) = false

lemma enterRecoveryOnlyOwner_cases (ho : Ordered S.config s.journal)
    (hi : Sound A s.journal (io.file 0)) (agentId sessionId : String) (ingressFence : UInt64) :
    ((s.enterRecoveryOnlyOwner S agentId sessionId ingressFence io).1 = s ∧
      (s.enterRecoveryOnlyOwner S agentId sessionId ingressFence io).2.ok = false) ∨
    (s.IngressAccepted agentId sessionId ingressFence ∧
      ((s.recoveryOnlySessionOwners.lookup (ownerKey agentId sessionId) = some ingressFence ∧
        (s.enterRecoveryOnlyOwner S agentId sessionId ingressFence io).1 =
          s.acknowledgeRecoveryOnly agentId sessionId ingressFence) ∨
      ∃ toolCallId j', toolCallId ≠ "" ∧
        ((Appended S (recoveryOnlyEvent (io.clock 0) agentId sessionId toolCallId ingressFence)
          s.journal j' ∧
          (s.enterRecoveryOnlyOwner S agentId sessionId ingressFence io).1 =
            (s.setJournal j').acknowledgeRecoveryOnly agentId sessionId ingressFence) ∨
        (Refused S A (recoveryOnlyEvent (io.clock 0) agentId sessionId toolCallId ingressFence)
          s.journal j' ∧
          (s.enterRecoveryOnlyOwner S agentId sessionId ingressFence io).1 =
            (s.setJournal j').block "OMS_SESSION_RECOVERY_FENCE_JOURNAL_FAILED" ∧
          (s.enterRecoveryOnlyOwner S agentId sessionId ingressFence io).2.ok = false)))) := by
  unfold enterRecoveryOnlyOwner
  simp only []
  split_ifs with hc hs hm
  · exact .inl ⟨rfl, rfl⟩
  · exact .inl ⟨rfl, rfl⟩
  all_goals
    simp only [not_or, Bool.not_eq_true] at hc hs
    refine .inr ⟨⟨hc.1, hc.2.2, hs.1, hs.2⟩, ?_⟩
  · exact .inl ⟨hm, rfl⟩
  refine .inr ⟨"session-owner-recovery-only-" ++ toString ingressFence.toNat, ?_⟩
  rcases appendOrBlock_cases ho hi (recoveryOnlyEvent (io.clock 0) agentId sessionId
      ("session-owner-recovery-only-" ++ toString ingressFence.toNat) ingressFence)
    "OMS_SESSION_RECOVERY_FENCE_JOURNAL_FAILED" with ⟨j', heq, ha⟩ | ⟨j', heq, hr⟩ <;>
    simp only [recoveryOnlyEvent] at heq <;>
    refine ⟨j', append_ne_empty (by decide), ?_⟩
  · exact .inl ⟨ha, by simp only [heq]; rfl⟩
  · exact .inr ⟨hr, by simp only [heq], by simp only [heq]⟩

theorem enterRecoveryOnlyOwner_moves (h : Coherent S s) (ha : A.fence)
    (hi : ∀ n, Sound A s.journal (io.file n)) (agentId sessionId : String) (ingressFence : UInt64)
    : Moves S A s (s.enterRecoveryOnlyOwner S agentId sessionId ingressFence io).1 := by
  rcases enterRecoveryOnlyOwner_cases h.ordered (hi 0) agentId sessionId ingressFence with
    ⟨hs', -⟩ | ⟨hac, ⟨-, hs'⟩ | ⟨toolCallId, j', hc, ⟨hp, hs'⟩ | ⟨hr, hs', -⟩⟩⟩ <;>
    rw [hs']
  · exact .single (fence_quiet_move h ha (hi 0) rfl rfl rfl rfl (.inl ⟨rfl, rfl⟩))
  all_goals have he : (recoveryOnlyEvent (io.clock 0) agentId sessionId toolCallId
    ingressFence).FenceRecord := .recoveryOnly _ hac.agent hc hac.positive
  · exact .single (fence_move ha he (.inl hp) rfl rfl rfl (.inl ⟨rfl, rfl⟩))
  · exact .single (fence_move ha he (.inr hr) rfl rfl rfl (.inr ⟨rfl, rfl⟩))

/-- The fence of an owner is released, and the owner resumed if it was recovery-only. -/
def releaseOwner (s : System) (key : String) (resumed : Option UInt64) : System :=
  { s with
    resumedRecoveryIngress := resumed.elim s.resumedRecoveryIngress
      (s.resumedRecoveryIngress.insert key)
    recoveryOnlySessionOwners := resumed.elim s.recoveryOnlySessionOwners
      fun _ => s.recoveryOnlySessionOwners.erase key
    fencedSessionOwners := s.fencedSessionOwners.erase key }

lemma auditAndReleaseSessionOwnerFence_cases (ho : Ordered S.config s.journal)
    (hi : Sound A s.journal (io.file 0)) (agentId sessionId : String) (complete : Bool)
    (expectedFence : UInt64) :
    (s.auditAndReleaseSessionOwnerFence S agentId sessionId complete expectedFence io).1 = s ∨
    (agentId ≠ "" ∧ s.mutationBlocked = false ∧ s.paperTerminalFencePresent = false ∧
      s.recoveryOnlySessionOwners.lookup (ownerKey agentId sessionId) ≠ some 0 ∧
      ∃ toolCallId j', toolCallId ≠ "" ∧
        ((Appended S (releaseEvent (io.clock 1) agentId sessionId toolCallId
              (s.recoveryOnlySessionOwners.lookup (ownerKey agentId sessionId))) s.journal j' ∧
          (s.auditAndReleaseSessionOwnerFence S agentId sessionId complete expectedFence io).1 =
            (s.setJournal j').releaseOwner (ownerKey agentId sessionId)
              (s.recoveryOnlySessionOwners.lookup (ownerKey agentId sessionId))) ∨
        (Refused S A (releaseEvent (io.clock 1) agentId sessionId toolCallId
              (s.recoveryOnlySessionOwners.lookup (ownerKey agentId sessionId))) s.journal j' ∧
          (s.auditAndReleaseSessionOwnerFence S agentId sessionId complete expectedFence io).1 =
            (s.setJournal j').block "OMS_SESSION_FENCE_RELEASE_JOURNAL_FAILED"))) := by
  unfold auditAndReleaseSessionOwnerFence
  cases hd : s.releaseDefect agentId sessionId complete expectedFence with
  | some => exact .inl rfl
  | none =>
    simp only [releaseDefect] at hd
    simp only []
    generalize hh : s.recoveryOnlySessionOwners.lookup (ownerKey agentId sessionId) = held
      at hd ⊢
    split_ifs at hd with hcn hb hc
    simp only [not_or, Bool.not_eq_true] at hcn hb
    refine .inr ⟨hcn.1, hb.1, hb.2, ?_,
      "session-owner-fence-release-" ++ toString (io.clock 0), ?_⟩
    · rintro rfl
      exact hc ⟨rfl, by by_cases h0 : expectedFence = 0 <;> simp [h0, eq_comm]⟩
    cases held with
    | none =>
      rcases appendOrBlock_cases ho hi (releaseEvent (io.clock 1) agentId sessionId
          ("session-owner-fence-release-" ++ toString (io.clock 0)) none)
        "OMS_SESSION_FENCE_RELEASE_JOURNAL_FAILED" with ⟨j', heq, ha⟩ | ⟨j', heq, hr⟩ <;>
        simp only [releaseEvent, elim_none] at heq <;>
        refine ⟨j', append_ne_empty (by decide), ?_⟩
      · exact .inl ⟨ha, by
          simp only [isSome_none, Bool.false_eq_true, if_false, heq]
          rfl⟩
      · exact .inr ⟨hr, by
          simp only [isSome_none, Bool.false_eq_true, if_false, heq]⟩
    | some fence =>
      have he : expectedFence = fence := by
        by_contra hne
        exact hc ⟨rfl, .inr (by simpa [eq_comm] using hne)⟩
      subst he
      rcases appendOrBlock_cases ho hi (releaseEvent (io.clock 1) agentId sessionId
          ("session-owner-fence-release-" ++ toString (io.clock 0)) (some expectedFence))
        "OMS_SESSION_FENCE_RELEASE_JOURNAL_FAILED" with ⟨j', heq, ha⟩ | ⟨j', heq, hr⟩ <;>
        simp only [releaseEvent, elim_some] at heq <;>
        refine ⟨j', append_ne_empty (by decide), ?_⟩
      · exact .inl ⟨ha, by
          simp only [isSome_some, if_true, heq]
          rfl⟩
      · exact .inr ⟨hr, by
          simp only [isSome_some, if_true, heq]⟩

theorem auditAndReleaseSessionOwnerFence_moves (h : Coherent S s) (ha : A.fence)
    (hi : ∀ n, Sound A s.journal (io.file n)) (agentId sessionId : String) (complete : Bool)
    (expectedFence : UInt64) :
    Moves S A s (s.auditAndReleaseSessionOwnerFence S agentId sessionId complete expectedFence
      io).1 := by
  rcases auditAndReleaseSessionOwnerFence_cases h.ordered (hi 0) agentId sessionId complete
    expectedFence with
    hs' | ⟨hg, -, -, hpos, toolCallId, j', hc, ⟨hp, hs'⟩ | ⟨hr, hs'⟩⟩ <;> rw [hs']
  all_goals have he : (releaseEvent (io.clock 1) agentId sessionId toolCallId
    (s.recoveryOnlySessionOwners.lookup (ownerKey agentId sessionId))).FenceRecord :=
      .release _ hg hc hpos
  · exact .single (fence_move ha he (.inl hp) rfl rfl rfl (.inl ⟨rfl, rfl⟩))
  · exact .single (fence_move ha he (.inr hr) rfl rfl rfl (.inr ⟨rfl, rfl⟩))

lemma projectTerminalCommands_eq (s : System) (owner : AgentExecutionContext) (hashed : Bool) :
    ∃ acknowledged, (s.projectTerminalCommands owner hashed).1 =
        { s with acknowledged := acknowledged } ∧
      (acknowledged = s.acknowledged ∨ acknowledged = .paperTerminal :: s.acknowledged) := by
  unfold projectTerminalCommands
  split_ifs
  · exact ⟨_, rfl, .inl rfl⟩
  · exact ⟨_, rfl, .inl rfl⟩
  · exact ⟨_, rfl, .inr rfl⟩

lemma enterPaperTerminalFenceAndProject_cases (ho : Ordered S.config s.journal)
    (hi : Sound A s.journal (io.file 0)) (binding : PaperTerminalFenceBinding) (hashed : Bool) :
    (s.enterPaperTerminalFenceAndProject S binding hashed io).1 = s ∨
    (s.paperTerminalFencePresent = true ∧ ∃ acknowledged,
      (acknowledged = s.acknowledged ∨ acknowledged = .paperTerminal :: s.acknowledged) ∧
      (s.enterPaperTerminalFenceAndProject S binding hashed io).1 =
        { s with acknowledged := acknowledged }) ∨
    (binding.valid = true ∧ s.venueDispatchesInFlight = 0 ∧ s.mutationBlocked = false ∧ ∃ j',
      (Appended S (terminalFenceEvent (io.clock 0) binding) s.journal j' ∧ ∃ acknowledged,
        (acknowledged = s.acknowledged ∨ acknowledged = .paperTerminal :: s.acknowledged) ∧
        (s.enterPaperTerminalFenceAndProject S binding hashed io).1 =
          { (s.setJournal j').haltPaperTerminal binding with acknowledged := acknowledged }) ∨
      (Refused S A (terminalFenceEvent (io.clock 0) binding) s.journal j' ∧
        (s.enterPaperTerminalFenceAndProject S binding hashed io).1 =
          (s.setJournal j').block "OMS_PAPER_TERMINAL_FENCE_JOURNAL_FAILED")) := by
  unfold enterPaperTerminalFenceAndProject
  by_cases hv : (!binding.valid) = true
  · rw [if_pos hv]
    exact .inl rfl
  rw [if_neg hv]
  by_cases hf : s.venueDispatchesInFlight ≠ 0
  · rw [if_pos hf]
    exact .inl rfl
  rw [if_neg hf]
  by_cases hb : s.mutationBlocked = true
  · rw [if_pos hb]
    by_cases hm : s.mutationBlockReason = paperTerminalHalted ∧
        s.paperTerminalFencePresent = true ∧ s.paperTerminalFenceBinding.same binding = true
    · obtain ⟨acknowledged, hs', ha⟩ := projectTerminalCommands_eq s binding.owner hashed
      rw [if_pos hm, hs']
      exact .inr (.inl ⟨hm.2.1, acknowledged, ha, rfl⟩)
    · rw [if_neg hm]
      exact .inl rfl
  rw [if_neg hb]
  by_cases hw : s.orderOwners ≠ ∅
  · rw [if_pos hw]
    exact .inl rfl
  rw [if_neg hw]
  refine .inr (.inr ⟨by simpa using hv, not_not.mp hf, by simpa using hb, ?_⟩)
  rcases appendOrBlock_cases ho hi (terminalFenceEvent (io.clock 0) binding)
    "OMS_PAPER_TERMINAL_FENCE_JOURNAL_FAILED" with ⟨j', heq, hp⟩ | ⟨j', heq, hr⟩
  · obtain ⟨acknowledged, hs', ha⟩ := projectTerminalCommands_eq
      ((s.setJournal j').haltPaperTerminal binding) binding.owner hashed
    exact ⟨j', .inl ⟨hp, acknowledged, ha, by simp only [heq]; rw [hs']⟩⟩
  · exact ⟨j', .inr ⟨hr, by simp only [heq]⟩⟩

theorem enterPaperTerminalFenceAndProject_moves (h : Coherent S s) (ha : A.fence)
    (hi : ∀ n, Sound A s.journal (io.file n)) (binding : PaperTerminalFenceBinding) (hashed : Bool)
    : Moves S A s (s.enterPaperTerminalFenceAndProject S binding hashed io).1 := by
  rcases enterPaperTerminalFenceAndProject_cases h.ordered (hi 0) binding hashed with
    hs' | ⟨-, acknowledged, -, hs'⟩ |
    ⟨hv, hf, -, j', ⟨hp, acknowledged, -, hs'⟩ | ⟨hr, hs'⟩⟩ <;> rw [hs']
  · exact .single (fence_quiet_move h ha (hi 0) rfl rfl rfl rfl (.inl ⟨rfl, rfl⟩))
  · exact .single (fence_move ha (.terminal _ hv) (.inl hp) rfl rfl rfl
      (.inr ⟨rfl, rfl⟩) rfl fun _ => ⟨rfl, rfl, hf⟩)
  · exact .single (fence_move ha (.terminal _ hv) (.inr hr) rfl rfl rfl
      (.inr ⟨rfl, rfl⟩) rfl fun _ => ⟨rfl, rfl, hf⟩)

theorem beginBrokerReconnectFence_moves (s : System) :
    Moves S A s s.beginBrokerReconnectFence.1 := by
  by_cases hf : s.mutationBlocked = false ∧ s.venueDispatchesInFlight = 0 ∧ s.orderOwners = ∅
  · obtain ⟨hb, hl, ho⟩ := hf
    simp only [beginBrokerReconnectFence, hb, hl, ho, Bool.false_eq_true, if_false,
      ne_eq, not_true_eq_false]
    exact .single (.reconnecting hb hl)
  · have hs' : s.beginBrokerReconnectFence.1 = s := by
      unfold beginBrokerReconnectFence
      by_cases hb : s.mutationBlocked = true
      · rw [if_pos hb]
      rw [if_neg hb]
      by_cases hl : s.venueDispatchesInFlight ≠ 0
      · rw [if_pos hl]
      rw [if_neg hl, if_pos fun ho =>
        hf ⟨by simpa using hb, not_not.mp hl, ho⟩]
    rw [hs']

theorem endBrokerReconnectFence_moves (s : System) (ha : A.reconnect) :
    Moves S A s s.endBrokerReconnectFence.1 := by
  unfold endBrokerReconnectFence
  by_cases ho : (!s.mutationBlocked) = true ∨ s.mutationBlockReason ≠ brokerReconnectPending
  · rw [if_pos ho]
  · rw [if_neg ho]
    rw [not_or, not_not] at ho
    exact .single (.reconnected (by simpa using ho.1) ho.2 ha)

/-! ### Order owners -/

lemma ownerTerminal_cases (ho : Ordered S.config s.journal)
    (hi : Sound A s.journal file) {orderId : Int} {owner : ExecutionOrderOwner}
    (hw : owner.agentId ≠ "") {tid : String} (ht : tid ≠ "") (tsMs : Int)
    (rs : String) :
    (∃ j', s.appendOrBlock S (ownerTerminalEvent tsMs orderId owner tid rs)
        ownerReconcileFailed file = (true, s.setJournal j') ∧
      Appended S (ownerTerminalEvent tsMs orderId owner tid rs) s.journal j' ∧
      Move S A s ((s.setJournal j').eraseOwner orderId)) ∨
    (∃ s', s.appendOrBlock S (ownerTerminalEvent tsMs orderId owner tid rs)
        ownerReconcileFailed file = (false, s') ∧ Move S A s s') := by
  have hm : (ownerTerminalEvent tsMs orderId owner tid rs).commandId ≠ "" ∧
      (ownerTerminalEvent tsMs orderId owner tid rs).agentId ≠ "" := by
    refine ⟨?_, by simpa [ownerTerminalEvent] using hw⟩
    simp [ownerTerminalEvent, commandId_buildEvent, ht]
  rcases appendOrBlock_cases ho hi (ownerTerminalEvent tsMs orderId owner tid rs)
    ownerReconcileFailed with ⟨j', heq, ha⟩ | ⟨j', heq, hr⟩
  · exact .inl ⟨j', heq, ha, .ended ha rfl rfl hm⟩
  · refine .inr ⟨_, heq, .refused hr rfl (fun hc => absurd hc ?_) rfl nofun
      (.inl hm)⟩
    simp [OmsJournalEvent.isCommand, EventType.isCommand, ownerTerminalEvent, buildEvent]

theorem recordOrderTerminalDurably_moves (h : Coherent S s)
    (hi : ∀ n, Sound A s.journal (io.file n)) (orderId : Int) :
    Moves S A s (s.recordOrderTerminalDurably S orderId io).1 := by
  unfold recordOrderTerminalDurably
  cases ho : s.orderOwners.lookup orderId with
  | none => exact .refl
  | some owner =>
    simp only []
    rcases ownerTerminal_cases h.ordered (hi 0) (h.owned orderId owner ho)
      (append_ne_empty (by decide : "order-terminal-" ≠ "")) (io.clock 0)
      "authoritative venue terminal callback" with ⟨j', heq, -, hm⟩ | ⟨s', heq, hm⟩ <;>
      rw [heq] <;> exact .single hm

lemma reconcileOwners_moves (orderIds : List Int) (n : Nat) (ho : Ordered S.config s.journal)
    (hi : ∀ n, Sound A s.journal (io.file n))
    (hw : ∀ orderId owner, s.orderOwners.lookup orderId = some owner → owner.agentId ≠ "") :
    Moves S A s (reconcileOwners S io orderIds n s).1 := by
  induction orderIds generalizing n s with
  | nil => exact .refl
  | cons orderId orderIds ih =>
    cases hon : s.orderOwners.lookup orderId with
    | none =>
      simp only [reconcileOwners, hon]
      exact ih n ho hi hw
    | some owner =>
      simp only [reconcileOwners, hon]
      have ht : "order-owner-reconciled-" ++ toString orderId ++ "-" ++
          toString (io.clock (2 * n)) ≠ "" :=
        append_ne_empty (append_ne_empty (append_ne_empty (by decide)))
      rcases ownerTerminal_cases ho (hi n) (hw orderId owner hon) ht
        (io.clock (2 * n + 1)) "absent from complete authoritative active-order snapshot" with
        ⟨j', heq, ha, hm⟩ | ⟨s', heq, hm⟩
      · rw [heq]
        refine .head hm (ih (n + 1) ha.ordered (fun k => ha.next_sound (hi k)) ?_)
        intro orderId' owner' hon'
        by_cases hr : orderId' = orderId
        · subst hr
          simp [eraseOwner, setJournal, Finmap.lookup_erase] at hon'
        · exact hw orderId' owner' ((Finmap.lookup_erase_ne hr).symm.trans hon')
      · rw [heq]
        exact .single hm

theorem reconcileOrderOwners_moves (h : Coherent S s) (hi : ∀ n, Sound A s.journal (io.file n))
    (activeOrderIds : Finset Int) (complete : Bool) (order : List Int) :
    Moves S A s (s.reconcileOrderOwners S activeOrderIds complete order io).1 := by
  unfold reconcileOrderOwners
  split_ifs
  · exact .refl
  · exact reconcileOwners_moves _ _ h.ordered hi h.owned

/-! ### Recovery -/

/-- The ends of `RecoverFromJournal`: refused, recovered, or blocked over a journal that could
not be read. -/
lemma recoverFromJournal_cases (ho : Ordered S.config s.journal)
    (hf : s.venueDispatchesInFlight = s.dispatches.length) (io : RecoverIo) :
    ((s.venueDispatchesInFlight ≠ 0 ∨ s.riskMutationDispatches ≠ ∅ ∨
      s.cancelPreflightsInFlight ≠ ∅) ∧ (s.recoverFromJournal io).1 = s) ∨
    (s.dispatches = [] ∧ ∃ j', (s.recoverFromJournal io).1 =
        { s with toCoordinator := Coordinator.recovered j'.records, journal := j' } ∧
      j'.records = s.journal.records ∧ j'.synced = j'.records ∧ Ordered S.config j' ∧
      j'.writePoisoned = false) ∨
    (s.dispatches = [] ∧ ∃ j' reason, (s.recoverFromJournal io).1 =
        { s with toCoordinator := Coordinator.block {} reason, journal := j' } ∧
      Quiet s.journal j' ∧ Ordered S.config j' ∧ isLasting reason = true ∧
      ¬ (s.journal.writePoisoned = false ∧ io = {})) := by
  unfold recoverFromJournal
  by_cases hb : s.venueDispatchesInFlight ≠ 0 ∨ s.riskMutationDispatches ≠ ∅ ∨
      s.cancelPreflightsInFlight ≠ ∅
  · rw [if_pos hb]
    exact .inl ⟨hb, rfl⟩
  rw [if_neg hb]
  right
  have hd : s.dispatches = [] := by
    rw [not_or, not_not, hf] at hb
    exact List.eq_nil_of_length_eq_zero hb.1
  have hor := replay_ordered ho io.replay
  rcases hrp : s.journal.replay io.replay with ⟨_ | events, j'⟩ <;> rw [hrp] at hor
  · refine .inr ⟨hd, j', "OMS_REPLAY_FAILED", rfl, replay_none hrp, hor, rfl, ?_⟩
    rintro ⟨hps, rfl⟩
    have hs := replay_clean hps
    rw [hrp] at hs
    simp at hs
  · obtain ⟨he, hy, hr, hp, hsn⟩ := replay_some hrp
    simp only []
    by_cases ht : io.throws = true
    · rw [if_pos ht]
      refine .inr ⟨hd, j', "OMS_RECOVERY_PROJECTION_FAILED", rfl,
        ⟨?_, hr, by simp [hp]⟩, hor, rfl, ?_⟩
      · rw [hy]
        exact ⟨s.journal.unsynced ++ s.journal.pending, by
          simp [OmsJournal.records, OmsJournal.written]⟩
      · rintro ⟨-, rfl⟩
        simp at ht
    · rw [if_neg ht]
      refine .inl ⟨hd, j', ?_, hr, hy.trans hr.symm, hor, hsn⟩
      rw [hr, he]

lemma recoverFromJournal_poisoned (h : s.journal.writePoisoned = true) (io : RecoverIo) :
    (s.recoverFromJournal io).1.journal.writePoisoned = true := by
  have hp := replay_poisoned h io.replay
  unfold recoverFromJournal
  split_ifs
  · exact h
  all_goals
    rcases hr : s.journal.replay io.replay with ⟨_ | events, j'⟩ <;> rw [hr] at hp <;>
      exact hp

theorem recoverFromJournal_moves (h : Coherent S s) (ha : A.recover) {io : RecoverIo}
    (hi : A.fault ∨ (s.journal.writePoisoned = false ∧ io = {})) :
    Moves S A s (s.recoverFromJournal io).1 := by
  rcases recoverFromJournal_cases h.ordered h.inFlight io with
    ⟨-, hs'⟩ | ⟨hd, j', hs', hr, hy, ho, hsn⟩ |
    ⟨hd, j', reason, hs', hq, ho, hl, hf⟩
  · rw [hs']
  · rw [hs']
    refine .single (.recovered (.inl ⟨hr, hd⟩) hy ho hsn rfl ?_ (List.Subset.refl _) rfl ha)
    simp [flightView, hd]
  · rw [hs']
    refine .single (.unrecovered (hi.resolve_right hf) (.inl ⟨hq, hd⟩) ho
      hl rfl ?_ (List.Subset.refl _) rfl ha)
    simp [flightView, hd, Coordinator.block]

theorem restart_moves (s : System) (ha : A.recover) {io : RecoverIo}
    (hi : A.fault ∨ io = {}) : Moves S A s (s.restart io).1 := by
  have ho : Ordered S.config s.crash.journal := afterCrash_ordered _
  rcases recoverFromJournal_cases (s := s.crash) ho rfl io with
    ⟨hb, -⟩ | ⟨-, j', hs', hr, hy, ho, hsn⟩ |
    ⟨-, j', reason, hs', hq, ho, hl, hf⟩
  · simp [crash] at hb
  · rw [restart, hs']
    refine .single (.recovered (.inr (hr.trans (afterCrash_records _))) hy ho
      hsn rfl ?_ (List.nil_subset _) rfl ha)
    simp [flightView, crash]
  · rw [restart, hs']
    exact .single (.unrecovered (hi.resolve_right fun h => hf ⟨rfl, h⟩) (.inr hq) ho
      hl rfl rfl (List.nil_subset _) rfl ha)

end System

end Hepta
