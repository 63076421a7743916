import Hepta.Moves.Records
import Hepta.Safety.AtMostOnce

/-!
# Fences that keep the venue quiet

The reconnect fence and the terminal fence are values of the block reason. While one of them is in
place no venue call runs, and none starts: whatever rewrites the reason puts a lasting one in its
place. The terminal fence comes back with the process that recovers from a journal that holds its
record, because no projection failure can follow that record.
-/

namespace Hepta

open List OmsJournal RequestRecord Hepta.System Stage

variable {S : Service} {A : Allowance} {s s' : System} {reasons : String → Bool}
  {records events : List OmsJournalEvent} {cfg : OmsJournalConfig}

/-! ### Closed admission -/

/-- Admission is closed for one of these reasons, and no venue call runs. -/
structure Closed (reasons : String → Bool) (s : System) : Prop where
  blocked : s.mutationBlocked = true
  reason : reasons s.mutationBlockReason = true
  idle : s.dispatches = []

lemma Dead.closed (h : Dead s) : Closed isLasting s := ⟨h.blocked, h.lasting, h.idle⟩

lemma Closed.dead (h : Closed isLasting s) : Dead s := ⟨h.blocked, h.reason, h.idle⟩

/-- Reasons that only a restart or the end of a reconnect replaces by something weaker. -/
structure Firm (A : Allowance) (reasons : String → Bool) : Prop where
  lasting : ∀ reason, isLasting reason = true → reasons reason = true
  recovery : reasons recoveryReconcileRequired = false
  projection : ∀ reason, isProjectionFailureReason reason = true → reasons reason = false
  reconnect : A.reconnect → reasons brokerReconnectPending = false

lemma Closed.of_blocks {reasons' : String → Bool} (h : Closed reasons s)
    (he : ∀ reason, reasons' reason = true → reasons reason = true) (hs : Blocks reasons' s s')
    (hf : s'.flightView = s.flightView) : Closed reasons s' := by
  have hd : s'.dispatches = s.dispatches := congrArg FlightView.dispatches hf
  rcases hs with ⟨hb, hr⟩ | ⟨hb, hr⟩
  · exact ⟨hb ▸ h.blocked, hr ▸ h.reason, hd ▸ h.idle⟩
  · exact ⟨hb, he _ hr, hd ▸ h.idle⟩

lemma Move.closed (hf : Firm A reasons) (hc : ¬ A.recover) (h : Closed reasons s)
    (hm : Move S A s s') : Closed reasons s' ∧ s'.venueCalls = s.venueCalls := by
  have hr := h.reason
  cases hm with
  | opened fresh identified cl =>
    obtain ⟨_, _, -, -, -, hb, hl, -⟩ := cl
    exact ⟨h.of_blocks hf.lasting hb hl, congrArg FlightView.venueCalls hl⟩
  | dispatched fresh wellFormed ws atd durable fl block admitted =>
    rw [(admitted h.blocked).1, hf.recovery] at hr
    simp at hr
  | returned wt =>
    rw [h.idle] at wt
    simp at wt
  | @resolved _ key record known live cl =>
    obtain ⟨_, _, -, -, -, hb, hl, -⟩ :=
      cl (.unresolved record.operation) (by simp [resolvable])
    exact ⟨h.of_blocks (by simp) hb hl, congrArg FlightView.venueCalls hl⟩
  | refused refused la =>
    exact ⟨⟨rfl, hf.lasting _ la, h.idle⟩, rfl⟩
  | fenced al journaled ord sound fences rqs ows fl bks =>
    exact ⟨h.of_blocks hf.lasting bks fl, congrArg FlightView.venueCalls fl⟩
  | ended | forgot | preflight | flushed => exact ⟨⟨h.blocked, h.reason, h.idle⟩, rfl⟩
  | lifted al ap et blocked rs =>
    rw [hf.projection _ rs] at hr
    simp at hr
  | reconnecting free =>
    rw [h.blocked] at free
    simp at free
  | reconnected blocked rs al =>
    rw [rs, hf.reconnect al] at hr
    simp at hr
  | released certain rs =>
    rw [rs, hf.recovery] at hr
    simp at hr
  | recovered source synced ord sound mem fl pfs ack al =>
    exact absurd al hc
  | unrecovered fault source ord la mem fl pfs ack al =>
    exact absurd al hc

lemma Moves.closed (hf : Firm A reasons) (hr : ¬ A.recover) (h : Closed reasons s)
    (hm : Moves S A s s') : Closed reasons s' ∧ s'.venueCalls = s.venueCalls := by
  induction hm with
  | refl => exact ⟨h, rfl⟩
  | tail _ hv ih =>
    obtain ⟨hl, hc⟩ := hv.closed hf hr ih.1
    exact ⟨hl, hc.trans ih.2⟩

/-! ### The terminal fence in the journal -/

namespace Coordinator

variable {c : Coordinator} {e : OmsJournalEvent}

/-- Admission is closed for good. -/
def Barred (c : Coordinator) : Prop :=
  c.mutationBlocked = true ∧ isLasting c.mutationBlockReason = true

lemma barred_applyRecoveredPaperTerminalFence (c : Coordinator) (e : OmsJournalEvent) :
    (c.applyRecoveredPaperTerminalFence e).Barred := by
  unfold applyRecoveredPaperTerminalFence
  split
  · rename_i hd
    rcases PaperTerminalFenceBinding.decode_error hd with rfl | rfl <;> exact ⟨rfl, rfl⟩
  · split_ifs <;> exact ⟨rfl, rfl⟩

lemma Barred.applyRecoveredEvent (h : c.Barred) (he : ¬ e.FailsProjection) :
    (c.applyRecoveredEvent e).Barred := by
  have hb : ∀ rs ∈ replayBlocks ++ ingressBlocks, isLasting rs = true := by decide
  cases blockStep_applyRecoveredEvent c e with
  | kept blocked rs => exact ⟨blocked.trans h.1, by rw [rs]; exact h.2⟩
  | lifted projection =>
    have hl := h.2
    simp [isLasting, isClearable, projection] at hl
  | failed failed => exact absurd failed he
  | blocked blocked rs => exact ⟨blocked, hb _ (mem_append_left _ rs)⟩
  | refused _ blocked rs => exact ⟨blocked, hb _ (mem_append_right _ rs)⟩

end Coordinator

/-- No projection failure stands behind a record of the terminal fence. -/
def Sealed (records : List OmsJournalEvent) : Prop :=
  records.Pairwise fun a b => a.eventType = .paperTerminalFence → ¬ b.FailsProjection

lemma Sealed.barred (hs : Sealed records) {e : OmsJournalEvent}
    (hm : e ∈ records) (ht : e.eventType = .paperTerminalFence) (hrc : e.FenceRecord) :
    (Coordinator.recovered records).Barred := by
  obtain ⟨front, back, rfl⟩ := append_of_mem hm
  have hbc : ∀ b ∈ back, ¬ b.FailsProjection := by
    intro b hb
    have ha := (List.pairwise_append.mp hs).2.1
    exact (List.pairwise_cons.mp ha).1 b hb ht
  have hr : (Coordinator.replay (front ++ e :: back)).Barred := by
    rw [Coordinator.replay, foldl_append, foldl_cons]
    refine foldlRecOn back _ (motive := Coordinator.Barred) ?_
      (fun c hc b hb => hc.applyRecoveredEvent (hbc b hb))
    obtain ⟨hcm, hg⟩ := hrc.named
    simp only [Coordinator.applyRecoveredEvent, ht, hcm, hg, reduceCtorEq, if_false,
      or_self, Coordinator.applyRecoveredOwnershipEvent]
    exact Coordinator.barred_applyRecoveredPaperTerminalFence _ e
  unfold Coordinator.recovered Coordinator.validateRecovered
  rw [if_neg (by simp [hr.1])]
  exact hr

/-! ### The terminal fence over a run -/

def HoldsTerminal (records : List OmsJournalEvent) : Prop :=
  ∃ e ∈ records, e.eventType = .paperTerminalFence

lemma HoldsTerminal.mono {records' : List OmsJournalEvent} (h : HoldsTerminal records)
    (hs : records ⊆ records') : HoldsTerminal records' := by
  obtain ⟨e, he, ht⟩ := h
  exact ⟨e, hs he, ht⟩

/-- The record of a terminal fence is complete, nothing that could lift the block comes behind it,
and a process that may still write is stopped by it. -/
structure Halted (s : System) : Prop where
  written : ∀ e ∈ s.journal.records, e.eventType = .paperTerminalFence → e.FenceRecord
  closing : Sealed s.journal.records
  stopped : HoldsTerminal s.journal.records → s.journal.writePoisoned = true ∨ Dead s

lemma OmsJournal.Enters.sealed {e : OmsJournalEvent} {j j' : OmsJournal} (h : Enters cfg e j j')
    (hs : Sealed j.records) (he : e.FailsProjection → ¬ HoldsTerminal j.records) :
    Sealed j'.records := by
  obtain ⟨_, _, hj, hj', ho, -⟩ := h.inserted
  rw [Sealed, hj, pairwise_append] at hs
  rw [Sealed, hj', pairwise_append, pairwise_cons]
  refine ⟨hs.1, ⟨fun b hb ht => ?_, hs.2.1⟩, fun a ha => ?_⟩
  · -- a terminal fence is not critical, so it enters at the end
    rw [ho.quick (by rw [ht]; rfl)] at hb
    simp at hb
  · refine List.forall_mem_cons.mpr ⟨fun ht hf => he hf ⟨a, ?_, ht⟩, hs.2.2 a ha⟩
    rw [hj]
    exact mem_append_left _ ha

lemma OmsJournal.Journaled.sealed
    {j j' : OmsJournal} (h : Journaled cfg j events j') (hs : Sealed j.records)
    (hv : ∀ e ∈ events, e.FailsProjection →
      ¬ HoldsTerminal j.records ∧ ¬ HoldsTerminal events) : Sealed j'.records := by
  induction h with
  | quiet h => rwa [h.records]
  | @enter j j₁ j' e events h rest ih =>
    obtain ⟨he, hr⟩ := List.forall_mem_cons.mp hv
    refine ih (h.sealed hs fun hf => (he hf).1) fun b hb hf => ?_
    obtain ⟨ho, hw⟩ := hr b hb hf
    refine ⟨?_, fun hm => hw (hm.mono (subset_cons_self _ _))⟩
    rintro ⟨a, ha, ht⟩
    rcases h.mem_records.mp ha with rfl | ha
    · exact hw ⟨a, mem_cons_self, ht⟩
    · exact ho ⟨a, ha, ht⟩

lemma Halted.of_commands (h : Halted s)
    (hj : Journaled S.config s.journal events s'.journal)
    (hc : ∀ e ∈ events, e.eventType ≠ .paperTerminalFence)
    (hf : ∀ e ∈ events, e.FailsProjection → ¬ HoldsTerminal s.journal.records)
    (hs : HoldsTerminal s.journal.records → s'.journal.writePoisoned = true ∨ Dead s') :
    Halted s' where
  written e he ht := by
    rcases hj.mem_records.mp he with he | he
    · exact absurd ht (hc e he)
    · exact h.written e he ht
  closing := hj.sealed h.closing fun e he hl => ⟨hf e he hl, by
    rintro ⟨b, hb, ht⟩
    exact hc b hb ht⟩
  stopped := by
    rintro ⟨e, he, ht⟩
    rcases hj.mem_records.mp he with he | he
    · exact absurd ht (hc e he)
    · exact hs ⟨e, he, ht⟩

lemma Halted.of_quiet (h : Halted s) (hr : s'.journal.records = s.journal.records)
    (hs : s.journal.writePoisoned = true ∨ Dead s →
      s'.journal.writePoisoned = true ∨ Dead s') : Halted s' :=
  ⟨hr ▸ h.written, hr ▸ h.closing, fun hm => hs (h.stopped (hr ▸ hm))⟩

lemma Halted.of_recovered (h : Halted s)
    (hsb : records.Sublist s.journal.records) (hr : s'.journal.records = records)
    (hm : s'.toCoordinator = Coordinator.recovered s'.journal.records)
    (hi : s'.dispatches = []) : Halted s' := by
  have hs : Sealed s'.journal.records := hr ▸ h.closing.sublist hsb
  have hw : ∀ e ∈ s'.journal.records, e.eventType = .paperTerminalFence → e.FenceRecord :=
    fun e he => h.written e (hsb.subset (hr ▸ he))
  refine ⟨hw, hs, ?_⟩
  rintro ⟨e, he, ht⟩
  obtain ⟨hb, hl⟩ := hs.barred he ht (hw e he ht)
  rw [← hm] at hb hl
  exact .inr ⟨hb, hl, hi⟩

lemma OmsJournalEvent.Belongs.not_terminal {base : RequestRecord} {e : OmsJournalEvent}
    (h : e.Belongs base) : e.eventType ≠ .paperTerminalFence := by
  intro ht
  have hc := h.isCommand
  simp [OmsJournalEvent.isCommand, EventType.isCommand, ht] at hc

lemma Dead.not_recovery (h : Dead s) : s.mutationBlockReason ≠ recoveryReconcileRequired := by
  intro hr
  have hc := h.not_clearable
  simp [isClearable, hr] at hc

lemma Move.halted (hc : Coherent S s) (h : Halted s) (hmv : Move S A s s') : Halted s' := by
  cases hmv with
  | opened fresh identified cl =>
    obtain ⟨events, record, hw, -, hsp, hbs, hfl, -⟩ := cl
    refine h.of_commands hw.journaled (fun e he => (hw.belongs e he).not_terminal)
      (fun e he ht hm => ?_) fun hm => ?_
    · rcases h.stopped hm with hps | hd
      · rw [(hw.poisoned hps).1] at he
        simp at he
      · -- a command that a stopped process settles is rejected, and nothing is projected
        have hu := hw.projected e he (by rw [ht.2]; rfl)
        rw [hsp hd.blocked hd.not_recovery] at hu
        simp at hu
    · rcases h.stopped hm with hps | hd
      · exact .inl (hw.poisoned hps).2
      · exact .inr (hd.of_blocks (fun _ h => h) hbs hfl)
  | dispatched fresh wellFormed ws atd durable fl block admitted =>
    have hfr : ¬ HoldsTerminal s.journal.records := by
      intro hm
      rcases h.stopped hm with hps | hd
      · rw [(ws.poisoned hps).1] at atd
        simp [advance] at atd
      · exact hd.not_recovery (admitted hd.blocked).1
    exact h.of_commands ws.journaled (fun e he => (ws.belongs e he).not_terminal)
      (fun _ _ _ => hfr) fun hm => absurd hm hfr
  | @returned _ dispatch waiting cl =>
    obtain ⟨events, record, hw, -, -, -, -, -⟩ := cl
    have hpo : HoldsTerminal s.journal.records → s.journal.writePoisoned = true := fun hm =>
      (h.stopped hm).resolve_right fun hd => by
        rw [hd.idle] at waiting
        simp at waiting
    refine h.of_commands hw.journaled (fun e he => (hw.belongs e he).not_terminal)
      (fun e he _ hm => ?_) fun hm => .inl (hw.poisoned (hpo hm)).2
    rw [(hw.poisoned (hpo hm)).1] at he
    simp at he
  | @resolved _ key record known live cl =>
    obtain ⟨events, _, hw, -, hst, hbs, hfl, -⟩ :=
      cl (.unresolved record.operation) (by simp [resolvable])
    refine h.of_commands hw.journaled (fun e he => (hw.belongs e he).not_terminal)
      (fun e he ht _ => hst (hw.projected e he (by rw [ht.2]; rfl))) fun hm => ?_
    rcases h.stopped hm with hps | hd
    · exact .inl (hw.poisoned hps).2
    · exact .inr (hd.of_blocks (by simp) hbs hfl)
  | @refused e j' rs refused lasting resolution unfenced =>
    have hk : HoldsTerminal s.journal.records →
        j'.writePoisoned = true ∨ Dead ((s.setJournal j').block rs) := fun hm =>
      (h.stopped hm).imp (fun hp => refused.poisoned hp ▸ hp)
        fun hd => ⟨rfl, lasting, hd.idle⟩
    obtain ⟨events, hj, hv, -⟩ := journaled_of_append (.inr refused)
    refine h.of_commands hj (fun b hb ht => ?_) (fun b hb ht _ => ?_) hk
    · rw [← hv b hb, ht] at unfenced
      simp [EventType.isFence] at unfenced
    · obtain rfl := hv b hb
      obtain ⟨record, -, -, -, hrs⟩ := resolution ht.1
      rw [ht.2] at hrs
      cases ho : record.operation <;> simp [ho, resolvedBy] at hrs
  | @fenced _ events al journaled ord sound fences requests owners fl blocks index psn
      ha =>
    have hfa : ∀ e ∈ events, ¬ e.FailsProjection := fun e he ht => by
      have hf := (fences e he).isFence
      rw [ht.2] at hf
      simp [EventType.isFence] at hf
    have hds : s'.dispatches = s.dispatches := congrArg FlightView.dispatches fl
    refine ⟨fun e he ht => ?_, journaled.sealed h.closing fun e he ht => absurd ht (hfa e he), ?_⟩
    · rcases journaled.mem_records.mp he with he | he
      · exact fences e he
      · exact h.written e he ht
    · rintro ⟨e, he, ht⟩
      rcases journaled.mem_records.mp he with he | he
      · refine (ha e he ht).imp_right fun hen => ?_
        obtain ⟨hbl, hl, hcn⟩ := hen
        refine ⟨hbl, hl, ?_⟩
        have hfl : s'.venueDispatchesInFlight = s.venueDispatchesInFlight :=
          congrArg FlightView.venueDispatchesInFlight fl
        rw [hds]
        apply eq_nil_of_length_eq_zero
        rw [← hc.inFlight, ← hfl, hcn]
      · exact (h.stopped ⟨e, he, ht⟩).imp psn
          fun hd => hd.of_blocks (fun _ h => h) blocks fl
  | ended ap et =>
    refine h.of_commands (.enter ap.enters (.quiet (Quiet.refl _))) (by simp [et])
      (by simp [OmsJournalEvent.FailsProjection, et]) fun hm => .inr ?_
    have hd := (h.stopped hm).resolve_left (by simp [ap.sound])
    exact ⟨hd.blocked, hd.lasting, hd.idle⟩
  | forgot | preflight =>
    exact h.of_quiet rfl fun hs => hs.imp_right fun hd => ⟨hd.blocked, hd.lasting, hd.idle⟩
  | lifted al ap et blocked rs =>
    refine h.of_commands (.enter ap.enters (.quiet (Quiet.refl _))) (by simp [et])
      (by simp [OmsJournalEvent.FailsProjection, et]) fun hm => ?_
    have hd := (h.stopped hm).resolve_left (by simp [ap.sound])
    have hcl := hd.not_clearable
    simp [isClearable, rs] at hcl
  | reconnecting free =>
    refine h.of_quiet rfl fun hs => hs.imp_right fun hd => ?_
    rw [hd.blocked] at free
    simp at free
  | reconnected blocked rs =>
    refine h.of_quiet rfl fun hs => hs.imp_right fun hd => ?_
    have hcl := hd.not_clearable
    simp [isClearable, rs] at hcl
  | released certain rs =>
    exact h.of_quiet rfl fun hs => hs.imp_right fun hd => absurd rs hd.not_recovery
  | flushed quiet ord sound psn =>
    exact h.of_quiet quiet.records fun hs => hs.imp psn fun hd => ⟨hd.blocked, hd.lasting, hd.idle⟩
  | recovered source synced ord sound mem fl =>
    have hi : s'.dispatches = [] := congrArg FlightView.dispatches fl
    rcases source with ⟨hr, -⟩ | hr
    · exact h.of_recovered (List.Sublist.refl _) hr mem hi
    · exact h.of_recovered (synced_sublist_records _) hr mem hi
  | unrecovered fault source ord lasting mem fl =>
    have hd : Dead s' :=
      ⟨by rw [mem]; rfl, by rw [mem]; exact lasting, congrArg FlightView.dispatches fl⟩
    have hsb : s'.journal.records.Sublist s.journal.records := by
      rcases source with ⟨hq, -⟩ | hq
      · rw [hq.records]
      · rw [hq.records, afterCrash_records]
        exact synced_sublist_records _
    exact ⟨fun e he => h.written e (hsb.subset he), h.closing.sublist hsb, fun _ => .inr hd⟩

/-! ### Runs of calls -/

def System.resetsReconciled (s : System) : Prop :=
  s.mutationBlocked = true → s.mutationBlockReason = paperTerminalHalted ∨
    s.mutationBlockReason = recoveryReconcileRequired ∨
    isProjectionFailureReason s.mutationBlockReason = true

/-- Every reset of a run is one after a reconciliation. -/
def System.resetsKept (s : System) : Call → Prop
  | .act _ => True
  | .resetMutationBlockAfterReconcile => s.resetsReconciled

/-- What may happen before a reconnect has ended. -/
def System.reconnectKept (s : System) : Call → Prop
  | .act (.recoverFromJournal _) | .act (.restart _) => False
  | .act .endBrokerReconnectFence => s.endBrokerReconnectFence.2.ok = false
  | .act _ => True
  | .resetMutationBlockAfterReconcile => s.resetsReconciled

/-- What may happen behind a terminal fence: a process that dies leaves the record synced. -/
def System.terminalKept (s : System) : Call → Prop
  | .act (.restart _) => HoldsTerminal s.journal.synced
  | .act _ => True
  | .resetMutationBlockAfterReconcile => s.resetsReconciled

lemma Moves.halted (hc : Coherent S s) (h : Halted s) (hm : Moves S A s s') : Halted s' := by
  induction hm with
  | refl => exact h
  | tail hm hv ih => exact hv.halted (Moves.coherent hc hm) ih

lemma Closed.reset (hf : Firm A reasons) (h : Closed reasons s)
    (hs : s.resetsReconciled) : s.resetMutationBlockAfterReconcile = s := by
  have hr := h.reason
  rcases hs h.blocked with hh | hc | hp
  · rw [resetMutationBlockAfterReconcile, if_pos hh]
  · rw [hc, hf.recovery] at hr
    simp at hr
  · rw [hf.projection _ hp] at hr
    simp at hr

lemma firm_isLasting (A : Allowance) : Firm A isLasting where
  lasting _ h := h
  recovery := rfl
  projection reason h := by simp [isLasting, isClearable, h]
  reconnect _ := rfl

lemma Halted.reset (h : Halted s) (hrs : s.resetsReconciled) :
    Halted s.resetMutationBlockAfterReconcile := by
  unfold resetMutationBlockAfterReconcile
  split_ifs with hr
  · exact h
  · refine h.of_quiet rfl fun hs => hs.imp_right fun hd => ?_
    have hsame := hd.closed.reset (firm_isLasting unrestricted) hrs
    rw [resetMutationBlockAfterReconcile, if_neg hr] at hsame
    have hb := hd.blocked
    rw [← hsame] at hb
    simp [unblock] at hb

lemma callRun_halted {calls : List Call} (h : callsMeet S resetsKept {} calls) :
    Coherent S (callRun S calls) ∧ Halted (callRun S calls) := by
  have ht : Coherent S ({} : System) ∧ Halted {} :=
    ⟨coherent_start, by simp [OmsJournal.records, OmsJournal.written, OmsJournal.pending],
      List.Pairwise.nil, by rintro ⟨e, he, -⟩; simp [records, written, pending] at he⟩
  refine calls_induction (P := fun s => Coherent S s ∧ Halted s) (fun s call hs hc => ?_) ht h
  cases call with
  | act a =>
    have hm := step_moves hs.1 (.inl trivial) (permits_unrestricted s a)
    exact ⟨Moves.coherent hs.1 hm, Moves.halted hs.1 hs.2 hm⟩
  | resetMutationBlockAfterReconcile => exact ⟨hs.1.reset, hs.2.reset hc⟩

/-- The reasons of a pending reconnect and those that may have replaced it. -/
def isFirm (reason : String) : Bool :=
  reason ≠ recoveryReconcileRequired && !isProjectionFailureReason reason

/-- Runs in which no reconnect ends and no process recovers. -/
def reconnectPending : Allowance := { unrestricted with recover := False, reconnect := False }

lemma firm_isFirm : Firm reconnectPending isFirm where
  lasting reason h := by
    simp only [isLasting, isClearable, Bool.not_eq_true', Bool.or_eq_false_iff,
      decide_eq_false_iff_not] at h
    simp [isFirm, h.1.1, h.1.2]
  recovery := rfl
  projection reason h := by simp [isFirm, h]
  reconnect h := h.elim

lemma reconnectKept_act {action : Action} (h : s.reconnectKept (.act action)) :
    (action = .endBrokerReconnectFence ∧ s.endBrokerReconnectFence.2.ok = false) ∨
      reconnectPending.Permits s action := by
  have hc : (action = .endBrokerReconnectFence ∧ s.endBrokerReconnectFence.2.ok = false) ∨
      (action.isRecovery = false ∧ action ≠ .endBrokerReconnectFence) := by
    cases action <;> simp_all [reconnectKept, Action.isRecovery]
  refine hc.imp_right fun ⟨hr, he⟩ => ?_
  exact ⟨.inl trivial, .inl trivial, .inl trivial, .inl trivial, .inr hr, .inr he,
    fun _ _ => trivial, fun _ _ => trivial⟩

lemma Closed.reconnectKept {call : Call} (hc : Coherent S s) (h : Closed isFirm s)
    (hl : s.reconnectKept call) :
    Coherent S (s.call S call) ∧ Closed isFirm (s.call S call) ∧
      (s.call S call).venueCalls = s.venueCalls := by
  cases call with
  | act =>
    rcases reconnectKept_act hl with ⟨rfl, ha⟩ | hp
    · have hsame : s.endBrokerReconnectFence.1 = s := by
        unfold endBrokerReconnectFence at ha ⊢
        by_cases ho : (!s.mutationBlocked) = true ∨
            s.mutationBlockReason ≠ brokerReconnectPending
        · rw [if_pos ho]
        · rw [if_neg ho] at ha
          simp at ha
      simp only [System.call, step, hsame]
      exact ⟨hc, h, trivial⟩
    · have hm := step_moves hc (.inl trivial) hp
      exact ⟨Moves.coherent hc hm, Moves.closed firm_isFirm (fun hf => hf) h hm⟩
  | resetMutationBlockAfterReconcile =>
    have hsame := h.reset firm_isFirm hl
    simp only [System.call, hsame]
    exact ⟨hc, h, trivial⟩

lemma recoverFromJournal_stopped (ho : Ordered S.config s.journal)
    (hf : s.venueDispatchesInFlight = s.dispatches.length)
    (hw : ∀ e ∈ s.journal.records, e.eventType = .paperTerminalFence → e.FenceRecord)
    (hsl : Sealed s.journal.records) (hh : HoldsTerminal s.journal.records)
    (io : RecoverIo) :
    ((s.venueDispatchesInFlight ≠ 0 ∨ s.riskMutationDispatches ≠ ∅ ∨
        s.cancelPreflightsInFlight ≠ ∅) ∧ (s.recoverFromJournal io).1 = s) ∨
      Dead (s.recoverFromJournal io).1 ∧ HoldsTerminal (s.recoverFromJournal io).1.journal.records ∧
      (s.recoverFromJournal io).1.venueCalls = s.venueCalls := by
  rcases recoverFromJournal_cases ho hf io with
    ⟨hbs, hs'⟩ | ⟨hi, j', hs', hc, -⟩ |
    ⟨hi, j', reason, hs', hq, -, hl, -⟩ <;> rw [hs']
  · exact .inl ⟨hbs, rfl⟩
  · obtain ⟨e, he, ht⟩ := hh
    obtain ⟨hb, hr⟩ := hsl.barred he ht (hw e he ht)
    rw [← hc] at hb hr he
    exact .inr ⟨⟨hb, hr, hi⟩, ⟨e, he, ht⟩, rfl⟩
  · exact .inr ⟨⟨rfl, hl, hi⟩, by rwa [hq.records], rfl⟩

/-- Behind a terminal fence: the process is stopped and the record of the fence is there. -/
structure Ended (S : Service) (calls : List VenueCall) (s : System) : Prop where
  coherent : Coherent S s
  halted : Halted s
  dead : Dead s
  holds : HoldsTerminal s.journal.records
  quiet : s.venueCalls = calls

/-- Runs in which no process recovers. -/
def unrecovering : Allowance := { unrestricted with recover := False }

lemma Ended.terminalKept {calls : List VenueCall} {call : Call} (h : Ended S calls s)
    (hcl : s.terminalKept call) : Ended S calls (s.call S call) := by
  cases call with
  | act action =>
    have hm := step_moves h.coherent (.inl trivial) (permits_unrestricted s action)
    have hch := Moves.coherent h.coherent hm
    have hl := Moves.halted h.coherent h.halted hm
    cases hr : action.isRecovery with
    | false =>
      have hp : unrecovering.Permits s action :=
        ⟨.inl trivial, .inl trivial, .inl trivial, .inl trivial, .inr hr,
          .inl trivial, fun _ _ => trivial, fun _ _ => trivial⟩
      have hm := step_moves h.coherent (.inl trivial) hp
      obtain ⟨hcs, hc⟩ := Moves.closed (firm_isLasting _) (fun hf => hf) h.dead.closed hm
      exact ⟨hch, hl, hcs.dead,
        h.holds.mono (Moves.records_subset (fun hf => hf) hm), hc.trans h.quiet⟩
    | true =>
      cases action with
      | recoverFromJournal io =>
        rcases recoverFromJournal_stopped h.coherent.ordered h.coherent.inFlight h.halted.written
          h.halted.closing h.holds io with ⟨-, hsame⟩ | ⟨hd, hh, hc⟩
        · have hsame : s.call S (.act (.recoverFromJournal io)) = s := hsame
          rw [hsame]
          exact h
        · exact ⟨hch, hl, hd, hh, hc.trans h.quiet⟩
      | restart io =>
        have hs : s.crash.journal.records.Sublist s.journal.records := by
          rw [show s.crash.journal.records = s.journal.synced from afterCrash_records _]
          exact synced_sublist_records _
        have hh : HoldsTerminal s.crash.journal.records :=
          (show s.crash.journal.records = s.journal.synced from afterCrash_records _) ▸ hcl
        have ho : Ordered S.config s.crash.journal := afterCrash_ordered _
        rcases recoverFromJournal_stopped ho rfl
          (fun e he => h.halted.written e (hs.subset he)) (h.halted.closing.sublist hs) hh io
          with ⟨hb, -⟩ | ⟨hd, hh, hc⟩
        · simp [crash] at hb
        · exact ⟨hch, hl, hd, hh, hc.trans h.quiet⟩
      | _ => simp [Action.isRecovery] at hr
  | resetMutationBlockAfterReconcile =>
    have hsame := h.dead.closed.reset (firm_isLasting unrestricted) hcl
    simp only [System.call, hsame]
    exact h

lemma Ended.installed {bf : List Call} (hb : callsMeet S resetsKept {} bf)
    {binding : PaperTerminalFenceBinding} {hashed : Bool} {io : Io}
    (ha : (callRun S bf).paperTerminalFencePresent = false)
    (hp : ((callRun S bf).enterPaperTerminalFenceAndProject S binding hashed
      io).1.paperTerminalFencePresent = true) :
    Ended S (callRun S bf).venueCalls
      ((callRun S bf).enterPaperTerminalFenceAndProject S binding hashed io).1 := by
  obtain ⟨hc, hh⟩ := callRun_halted hb
  have hm := step_moves hc (.inl trivial)
    (permits_unrestricted _ (.enterPaperTerminalFenceAndProject binding hashed io))
  have hch := Moves.coherent hc hm
  have hh := Moves.halted hc hh hm
  simp only [step] at hch hh
  generalize callRun S bf = s at ha hp hc hch hh ⊢
  have hsn : Sound unrestricted s.journal (io.file 0) := .inl trivial
  rcases enterPaperTerminalFenceAndProject_cases hc.ordered hsn binding hashed with
    hs' | ⟨ht, -⟩ | ⟨-, hf, -, j', ⟨hap, acknowledged, -, hs'⟩ | ⟨-, hs'⟩⟩
  · rw [hs', ha] at hp
    simp at hp
  · rw [ha] at ht
    simp at ht
  · rw [hs'] at hch hh ⊢
    have hi : s.dispatches = [] :=
      eq_nil_of_length_eq_zero (by rw [← hc.inFlight, hf])
    exact ⟨hch, hh, ⟨rfl, rfl, hi⟩, ⟨_, hap.enters.mem_records.mpr (.inl rfl), rfl⟩, rfl⟩
  · rw [hs'] at hp
    exact absurd hp (by simp [block, setJournal, ha])

/-- As long as every reset is one after a reconciliation: from a reconnect fence to its end, unless
the process recovers meanwhile, no venue call runs and none is made; and once the terminal fence is
in place none is ever made again, as long as its record is synced when a process dies. -/
theorem fences_keep_venue_quiet (S : Service) (before : List Call)
    (hbefore : callsMeet S resetsKept {} before) :
    ((callRun S before).beginBrokerReconnectFence.2.ok = true → ∀ during : List Call,
      callsMeet S reconnectKept (callRun S before).beginBrokerReconnectFence.1 during →
      (during.foldl (call S) (callRun S before).beginBrokerReconnectFence.1).dispatches = [] ∧
      (during.foldl (call S) (callRun S before).beginBrokerReconnectFence.1).venueCalls =
        (callRun S before).venueCalls) ∧
    (∀ (binding : PaperTerminalFenceBinding) (hashed : Bool) (io : Io),
      (callRun S before).paperTerminalFencePresent = false →
      ((callRun S before).enterPaperTerminalFenceAndProject S binding hashed
        io).1.paperTerminalFencePresent = true → ∀ after : List Call,
      callsMeet S terminalKept
        ((callRun S before).enterPaperTerminalFenceAndProject S binding hashed io).1 after →
      (after.foldl (call S)
        ((callRun S before).enterPaperTerminalFenceAndProject S binding hashed io).1).dispatches = [] ∧
      (after.foldl (call S)
        ((callRun S before).enterPaperTerminalFenceAndProject S binding hashed io).1).venueCalls =
        (callRun S before).venueCalls) := by
  obtain ⟨hc, -⟩ := callRun_halted hbefore
  constructor
  · intro hk during hd
    generalize callRun S before = s at hc hk hd ⊢
    obtain ⟨hs', hcn⟩ : s.beginBrokerReconnectFence.1 = s.block brokerReconnectPending ∧
        s.venueDispatchesInFlight = 0 := by
      unfold beginBrokerReconnectFence at hk ⊢
      split_ifs at hk ⊢ with hb hfl ho
      · exact ⟨rfl, not_not.mp hfl⟩
    have hi : s.dispatches = [] :=
      eq_nil_of_length_eq_zero (by rw [← hc.inFlight, hcn])
    rw [hs'] at hd ⊢
    have hst : Coherent S (s.block brokerReconnectPending) ∧
        Closed isFirm (s.block brokerReconnectPending) ∧
        (s.block brokerReconnectPending).venueCalls = s.venueCalls :=
      ⟨⟨⟨hc.ordered, hc.keyed, hc.owned, hc.named, hc.indexed⟩, hc.inFlight, hc.pending, hc.distinct,
        hc.preflights⟩, ⟨rfl, rfl, hi⟩, rfl⟩
    have he := calls_induction
      (P := fun t => Coherent S t ∧ Closed isFirm t ∧ t.venueCalls = s.venueCalls)
      (fun t call ht hl => by
        obtain ⟨hh, hcs, hca⟩ := ht.2.1.reconnectKept ht.1 hl
        exact ⟨hh, hcs, hca.trans ht.2.2⟩) hst hd
    exact ⟨he.2.1.idle, he.2.2⟩
  · intro binding hashed io ha hp after hf
    have he := calls_induction (P := Ended S (callRun S before).venueCalls)
      (fun t call ht hl => ht.terminalKept hl) (.installed hbefore ha hp) hf
    exact ⟨he.dead.idle, he.quiet⟩

def sampleBinding : PaperTerminalFenceBinding where
  owner := {
    agentId := "agent", sessionId := "session", account := "account", executionDomain := "paper" }
  finalizationId := "final"
  preliminaryReceiptSha256 := "sha256:0000000000000000000000000000000000000000000000000000000000000000"
  recoveryIngressFence := 1
  serviceEpoch := "epoch"
  serviceFencingGeneration := 1
  serviceProcessId := 1
  serviceProcessStartTicks := 1
  brokerConnectionEpoch := 1
  brokerSocketIdentitySha256 := "sha256:0000000000000000000000000000000000000000000000000000000000000000"

def sampleTerminalFence : Call := .act (.enterPaperTerminalFenceAndProject sampleBinding true {})

def samplePlace : Call := .act (.placeOrder (samplePlacement "p") none {} {})

def sampleRefusedFence : Call :=
  .act (.fenceSessionOwner "agent" "other" { file := fun _ => { refused := true } })

/-- The reset opens the venue before a reconnect has ended; behind a terminal fence it does so once a
refused record has replaced the reason; and a process that dies before the record is synced comes
back without the terminal fence. -/
theorem reset_opens_fenced_venue :
    (({} : System).beginBrokerReconnectFence.2.ok = true ∧
      (callRun sampleService [.act .beginBrokerReconnectFence, .resetMutationBlockAfterReconcile,
        samplePlace]).venueCalls.length = 1) ∧
    ((callRun sampleService [sampleTerminalFence]).paperTerminalFencePresent = true ∧
      (callRun sampleService [sampleTerminalFence, sampleRefusedFence,
        .resetMutationBlockAfterReconcile, samplePlace]).venueCalls.length = 1 ∧
      (callRun sampleService [sampleTerminalFence, .act (.restart {}),
        samplePlace]).venueCalls.length = 1) := by
  decide

/-- Placements behind the fences are refused. -/
theorem fences_keep_sample_venue_quiet :
    ((({} : System).beginBrokerReconnectFence.2.ok = true ∧
      callsMeet sampleService reconnectKept ({} : System).beginBrokerReconnectFence.1 [samplePlace]) ∧
      ([samplePlace].foldl (call sampleService)
        ({} : System).beginBrokerReconnectFence.1).venueCalls = []) ∧
    (callRun sampleService [sampleTerminalFence, samplePlace]).venueCalls = [] := by
  have hq := fences_keep_venue_quiet sampleService [] trivial
  refine ⟨⟨⟨rfl, trivial, trivial⟩, (hq.1 rfl [samplePlace] ⟨trivial, trivial⟩).2⟩, ?_⟩
  exact (hq.2 sampleBinding true {} rfl (by decide) [samplePlace] ⟨trivial, trivial⟩).2

end Hepta
