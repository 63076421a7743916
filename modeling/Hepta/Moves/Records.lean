import Hepta.Moves.Step

/-!
# The records of a run

Every record that a run leaves in the journal is a record of a command that came at its time, the
record of a fence operation, or one of the two records that concern no single command. What does not
touch the fences leaves them and their records alone, and only a crash loses records.
-/

namespace Hepta

open OmsJournal Hepta.System Stage

variable {S : Service} {A : Allowance} {s s' : System} {events : List OmsJournalEvent}
  {e : OmsJournalEvent} {stage : Stage} {start : RequestRecord → Prop} {cfg : OmsJournalConfig}
  {key : String}

lemma next_of_advance {af : Stage} (h : stage.advance events = some af)
    (hm : e ∈ events) : ∃ before, (Stage.next before e).isSome = true := by
  induction events generalizing stage with
  | nil => simp at hm
  | cons first events ih =>
    simp only [advance, List.foldlM_cons, Option.bind_eq_bind, Option.bind_eq_some_iff] at h
    obtain ⟨_, hnext, hr⟩ := h
    rcases List.mem_cons.mp hm with rfl | hm
    · exact ⟨stage, by simp [hnext]⟩
    · exact ih hr hm

lemma projection_of_next {et : OmsJournalEvent}
    (h : (stage.next et).isSome = true) (ht : et.eventType = .executionProjectionFailed) :
    isProjectionFailureReason et.riskCode = true := by
  cases stage with
  | sent =>
    simp only [Stage.next] at h
    split_ifs at h with hf
    · exact hf.2
    · simp at h
  | intended operation | attempted operation | unresolved operation =>
    cases operation <;> simp [Stage.next, outcome, resolvedBy, ht] at h
  | fresh | reserved | projectionFailed operation | closed operation =>
    simp [Stage.next, ht] at h

/-- A record of a command comes at some stage, and one of a fence is complete. -/
structure OmsJournalEvent.Regular (e : OmsJournalEvent) : Prop where
  staged : e.isCommand = true → ∃ stage, (Stage.next stage e).isSome = true
  fence : e.eventType.isFence = true → e.FenceRecord
  authored : e.Authored

lemma OmsJournalEvent.Regular.projection (h : e.Regular)
    (hc : e.isCommand = true) (ht : e.eventType = .executionProjectionFailed) :
    isProjectionFailureReason e.riskCode = true := by
  obtain ⟨_, hs⟩ := h.staged hc
  exact projection_of_next hs ht

lemma OmsJournalEvent.Belongs.not_isFence {base : RequestRecord}
    (h : e.Belongs base) : e.eventType.isFence = false := by
  have hc := h.isCommand
  simp only [OmsJournalEvent.isCommand, Bool.and_eq_true] at hc
  cases ht : e.eventType <;> simp_all [EventType.isCommand, EventType.isFence]

lemma Writes.regular {base r : RequestRecord}
    (h : Writes S A key base start stage s events r s') : ∀ e ∈ events, e.Regular := by
  intro e he
  obtain ⟨_, ha, -⟩ := h.advances
  refine ⟨fun _ => next_of_advance ha he, fun hf => ?_,
    OmsJournalEvent.authored_of_isCommand (h.belongs e he).isCommand⟩
  rw [(h.belongs e he).not_isFence] at hf
  simp at hf

lemma OmsJournal.Journaled.regular
    {j j' : OmsJournal} (h : Journaled cfg j events j') (ho : ∀ e ∈ j.records, e.Regular)
    (hw : ∀ e ∈ events, e.Regular) : ∀ e ∈ j'.records, e.Regular := fun e he =>
  (h.mem_records.mp he).elim (hw e) (ho e)

lemma Move.regular (h : ∀ e ∈ s.journal.records, e.Regular) (hm : Move S A s s') :
    ∀ e ∈ s'.journal.records, e.Regular := by
  have hp : ∀ {e : OmsJournalEvent}, e.eventType.isCommand = false →
      e.eventType.isFence = false → e.Authored → e.Regular := fun {e} hc hf ha =>
    ⟨fun h => absurd h (by simp [OmsJournalEvent.isCommand, hc]),
      fun h => absurd h (by simp [hf]), ha⟩
  cases hm with
  | opened _ _ cl =>
    obtain ⟨_, _, hw, -⟩ := cl
    exact hw.journaled.regular h hw.regular
  | dispatched _ _ ws => exact ws.journaled.regular h ws.regular
  | returned _ cl =>
    obtain ⟨_, _, hw, -⟩ := cl
    exact hw.journaled.regular h hw.regular
  | @resolved _ _ r _ _ cl =>
    obtain ⟨_, _, hw, -⟩ := cl (.unresolved r.operation) (by simp [resolvable])
    exact hw.journaled.regular h hw.regular
  | @refused e _ _ refused _ resolution unfenced _ authored =>
    have he : e.Regular := by
      refine ⟨fun hc => ?_, fun hf => absurd hf (by simp [unfenced]), authored⟩
      obtain ⟨r, -, -, -, hs⟩ := resolution hc
      exact ⟨.unresolved r.operation, by simp [Stage.next, hs]⟩
    obtain ⟨_, hj, hv, -⟩ := journaled_of_append (.inr refused)
    exact hj.regular h fun b hb => hv b hb ▸ he
  | fenced _ journaled _ _ fences =>
    refine journaled.regular h fun e he =>
      ⟨fun hc => ?_, fun _ => fences e he, .inl (fences e he).named⟩
    simp [isCommand_of_eventType (isCommand_of_isFence (fences e he).isFence)] at hc
  | ended ap et _ named =>
    refine (Journaled.enter ap.enters (.quiet (Quiet.refl _))).regular h ?_
    simpa using hp (by rw [et]; rfl) (by rw [et]; rfl) (.inl named)
  | lifted _ ap et _ _ authored =>
    refine (Journaled.enter ap.enters (.quiet (Quiet.refl _))).regular h ?_
    simpa using hp (by rw [et]; rfl) (by rw [et]; rfl) authored
  | forgot | preflight | reconnecting | reconnected | released => exact h
  | flushed quiet => exact fun e he => h e (quiet.records ▸ he)
  | recovered source =>
    rcases source with ⟨hr, -⟩ | hr
    · exact fun e he => h e (hr ▸ he)
    · exact fun e he => h e (synced_subset_records _ (hr ▸ he))
  | unrecovered _ source =>
    rcases source with ⟨hq, -⟩ | hq
    · exact fun e he => h e (hq.records ▸ he)
    · refine fun e he => h e (synced_subset_records _ ?_)
      rwa [hq.records, afterCrash_records] at he

lemma Moves.regular (h : ∀ e ∈ s.journal.records, e.Regular) (hm : Moves S A s s') :
    ∀ e ∈ s'.journal.records, e.Regular := by
  induction hm with
  | refl => exact h
  | tail _ hv ih => exact hv.regular ih

/-- The records that the coordinator can write: what some run leaves in the journal, up to any
point. -/
def Writable (records : List OmsJournalEvent) : Prop :=
  ∃ (S : Service) (calls : List Call), records <+: (callRun S calls).journal.records

lemma Writable.records {records : List OmsJournalEvent} (h : Writable records) :
    ∀ e ∈ records, e.Regular ∧ (e.isCommand = true → e.traceId ≠ "") := by
  obtain ⟨S, calls, hc⟩ := h
  have hr : Coherent S (callRun S calls) ∧ ∀ e ∈ (callRun S calls).journal.records, e.Regular := by
    refine List.foldlRecOn calls (call S) (b := {}) (motive := fun s =>
      Coherent S s ∧ ∀ e ∈ s.journal.records, e.Regular)
      ⟨coherent_start, by simp [OmsJournal.records, written, pending]⟩ ?_
    intro s hs call _
    cases call with
    | act a =>
      have hv := step_moves hs.1 (.inl trivial) (permits_unrestricted s a)
      exact ⟨Moves.coherent hs.1 hv, Moves.regular hs.2 hv⟩
    | resetMutationBlockAfterReconcile =>
      have hj : s.resetMutationBlockAfterReconcile.journal = s.journal := by
        unfold resetMutationBlockAfterReconcile
        split_ifs <;> rfl
      exact ⟨hs.1.reset, fun e he => hs.2 e (hj ▸ he)⟩
  intro e he
  have hm := hc.subset he
  exact ⟨hr.2 e hm, hr.1.named e hm⟩

def sampleRecords (calls : List Call) : List OmsJournalEvent :=
  (callRun sampleService calls).journal.records

lemma writable_sampleRecords (calls : List Call) : Writable (sampleRecords calls) :=
  ⟨sampleService, calls, List.prefix_rfl⟩

lemma Move.records_subset (hr : ¬ A.recover) (hm : Move S A s s') :
    s.journal.records ⊆ s'.journal.records := by
  have hd : ∀ {events : List OmsJournalEvent} {j j' : OmsJournal},
      Journaled S.config j events j' → j.records ⊆ j'.records :=
    fun h _ he => h.mem_records.mpr (.inr he)
  cases hm with
  | opened _ _ cl =>
    obtain ⟨_, _, hw, -⟩ := cl
    exact hd hw.journaled
  | dispatched _ _ ws => exact hd ws.journaled
  | returned _ cl =>
    obtain ⟨_, _, hw, -⟩ := cl
    exact hd hw.journaled
  | @resolved _ _ record _ _ cl =>
    obtain ⟨_, _, hw, -⟩ := cl (.unresolved record.operation) (by simp [resolvable])
    exact hd hw.journaled
  | refused refused =>
    obtain ⟨_, hj, -⟩ := journaled_of_append (.inr refused)
    exact hd hj
  | fenced _ journaled => exact hd journaled
  | ended appended | lifted _ appended =>
    exact hd (.enter appended.enters (.quiet (Quiet.refl _)))
  | forgot | preflight | reconnecting | reconnected | released => exact List.Subset.refl _
  | flushed quiet => exact hd (.quiet quiet)
  | recovered _ _ _ _ _ _ _ _ allowed | unrecovered _ _ _ _ _ _ _ _ allowed =>
    exact absurd allowed hr

lemma Moves.records_subset (hr : ¬ A.recover) (hm : Moves S A s s') :
    s.journal.records ⊆ s'.journal.records := by
  induction hm with
  | refl => exact List.Subset.refl _
  | tail _ hv ih => exact List.Subset.trans ih (hv.records_subset hr)

/-- What leaves the fences alone writes none of their records. -/
structure Unfenced (S : Service) (s s' : System) : Prop where
  fences : s'.fenceView = s.fenceView
  journaled : ∃ events, Journaled S.config s.journal events s'.journal ∧
    ∀ e ∈ events, e.eventType.isFence = false
  poisoned : s.journal.writePoisoned = true → s'.journal.writePoisoned = true

lemma Journaled.append {j j₁ j' : OmsJournal}
    {events' : List OmsJournalEvent} (h : Journaled cfg j events j₁)
    (h' : Journaled cfg j₁ events' j') : Journaled cfg j (events ++ events') j' := by
  induction h with
  | quiet h => exact h.journaled h'
  | enter h _ ih => exact .enter h (ih h')

lemma Unfenced.trans {s₁ : System} (h : Unfenced S s s₁) (h' : Unfenced S s₁ s') : Unfenced S s s' := by
  obtain ⟨events, hj, he⟩ := h.journaled
  obtain ⟨events', hj', he'⟩ := h'.journaled
  exact ⟨h'.fences.trans h.fences, ⟨events ++ events', Journaled.append hj hj', fun e hm =>
    (List.mem_append.mp hm).elim (he e) (he' e)⟩, fun hp => h'.poisoned (h.poisoned hp)⟩

lemma Writes.unfenced {base record : RequestRecord}
    (h : Writes S A key base start stage s events record s') : Unfenced S s s' :=
  ⟨h.fences, ⟨events, h.journaled, fun e he => (h.belongs e he).not_isFence⟩,
    fun hp => (h.poisoned hp).2⟩

lemma Appended.unfenced (h : Appended S e s.journal s'.journal)
    (he : e.eventType.isFence = false) (hf : s'.fenceView = s.fenceView) : Unfenced S s s' :=
  ⟨hf, ⟨[e], .enter h.enters (.quiet (Quiet.refl _)), by simpa using he⟩,
    fun hp => absurd hp (by simp [h.sound])⟩

lemma Unfenced.of_quiet (hq : Quiet s.journal s'.journal) (hf : s'.fenceView = s.fenceView)
    (hp : s.journal.writePoisoned = true → s'.journal.writePoisoned = true) :
    Unfenced S s s' := ⟨hf, ⟨[], .quiet hq, by simp⟩, hp⟩

lemma Move.unfenced (hf : ¬ A.fence) (hr : ¬ A.recover) (hm : Move S A s s') : Unfenced S s s' := by
  cases hm with
  | opened _ _ cl =>
    obtain ⟨_, _, hw, -⟩ := cl
    exact hw.unfenced
  | dispatched _ _ ws => exact ws.unfenced
  | @returned _ dispatch _ cl =>
    obtain ⟨_, _, hw, -⟩ := cl
    exact ⟨hw.unfenced.fences, hw.unfenced.journaled, hw.unfenced.poisoned⟩
  | @resolved _ _ record _ _ cl =>
    obtain ⟨_, _, hw, -⟩ := cl (.unresolved record.operation) (by simp [resolvable])
    exact hw.unfenced
  | @refused e j' _ refused _ _ unfenced =>
    obtain ⟨events, hj, he, hp⟩ := journaled_of_append (.inr refused)
    exact ⟨rfl, ⟨events, hj, fun b hb => he b hb ▸ unfenced⟩, hp⟩
  | fenced al => exact absurd al hf
  | ended ap et => exact Appended.unfenced ap (by rw [et]; rfl) rfl
  | lifted _ ap et => exact Appended.unfenced ap (by rw [et]; rfl) rfl
  | forgot | preflight | reconnecting | reconnected | released =>
    exact .of_quiet (Quiet.refl _) rfl id
  | flushed quiet _ _ psn => exact .of_quiet quiet rfl psn
  | recovered _ _ _ _ _ _ _ _ al | unrecovered _ _ _ _ _ _ _ _ al =>
    exact absurd al hr

end Hepta
