import Hepta.Journal.Oms

/-!
# What an append does

Whatever the settings and the file system do, an append either makes its record one more
record of the journal or leaves the records as they are, and it never takes back a synced
record. A failed append that left its record behind has poisoned the writer.
-/

namespace Hepta

open List

def EventType.opensPlace : EventType → Bool
  | .orderIntent | .placeSendAttempt => true
  | _ => false

lemma EventType.isCritical_of_opensPlace {et : EventType}
    (h : et.opensPlace = true) : et.isCritical = true := by
  cases et <;> simp_all [EventType.opensPlace, EventType.isCritical]

namespace OmsJournal

/-- The records in the order in which the file will hold them. -/
def records (j : OmsJournal) : List OmsJournalEvent := j.written ++ j.pending

/-- Nothing waits in a queue that is not in use, no critical record waits where critical records
are synced, and the records that open a placement never wait. -/
structure Ordered (cfg : OmsJournalConfig) (j : OmsJournal) : Prop where
  queue : cfg.asyncEnabled = false → j.asyncQueue = []
  critical : cfg.syncCritical = true → ∀ e ∈ j.pending, e.eventType.isCritical = false
  opening : ∀ e ∈ j.pending, e.eventType.opensPlace = false

/-- The records stay as they are. -/
structure Quiet (j j' : OmsJournal) : Prop where
  synced : j.synced <+: j'.synced
  records : j'.records = j.records
  pending : j'.pending ⊆ j.pending

/-- `e` may stand in front of the records `back`: only a critical record overtakes others, which
wait in the asynchronous queue. The opening of a placement is never overtaken, and a critical
record only by such an opening. Nothing is overtaken where the queue is flushed first, or where
critical records wait with the others. -/
structure Overtakes (cfg : OmsJournalConfig) (e : OmsJournalEvent) (back : List OmsJournalEvent) :
    Prop where
  async : cfg.asyncEnabled = false → back = []
  quick : e.eventType.isCritical = false → back = []
  opening : ∀ b ∈ back, b.eventType.opensPlace = false
  critical : ∀ b ∈ back, b.eventType.isCritical = true → e.eventType.opensPlace = true
  flushed : cfg.criticalFlushQueued = true → back = []
  queued : cfg.syncCritical = false → e.eventType.opensPlace = false → back = []

/-- `e` becomes a record of the journal. -/
structure Enters (cfg : OmsJournalConfig) (e : OmsJournalEvent) (j j' : OmsJournal) : Prop where
  synced : j.synced <+: j'.synced
  inserted : ∃ front back, j.records = front ++ back ∧ j'.records = front ++ e :: back ∧
    Overtakes cfg e back ∧ back ⊆ j.pending

/-- The end of an append that failed. -/
def Spoils (cfg : OmsJournalConfig) (e : OmsJournalEvent) (j j' : OmsJournal) : Prop :=
  Quiet j j' ∨ (Enters cfg e j j' ∧ j'.writePoisoned = true)

variable {cfg : OmsJournalConfig} {j j₁ j' : OmsJournal} {e : OmsJournalEvent} {io io' : AppendIo}
  {ok durable : Bool}

lemma Quiet.refl (j : OmsJournal) : Quiet j j := ⟨prefix_refl _, rfl, List.Subset.refl _⟩

lemma Quiet.trans (h : Quiet j j₁) (h' : Quiet j₁ j') : Quiet j j' :=
  ⟨h.synced.trans h'.synced, h'.records.trans h.records, List.Subset.trans h'.pending h.pending⟩

lemma Quiet.enters (h : Quiet j j₁) (h' : Enters cfg e j₁ j') : Enters cfg e j j' := by
  obtain ⟨front, back, hj, hj', ho, hb⟩ := h'.inserted
  exact ⟨h.synced.trans h'.synced, front, back, h.records ▸ hj, hj', ho,
    List.Subset.trans hb h.pending⟩

lemma Quiet.spoils (h : Quiet j j₁) (h' : Spoils cfg e j₁ j') : Spoils cfg e j j' := by
  rcases h' with hq | ⟨he, hp⟩
  · exact .inl (h.trans hq)
  · exact .inr ⟨h.enters he, hp⟩

/-! ### Flushing -/

lemma flushBuffered_quiet (j : OmsJournal) (io : AppendIo) : Quiet j (j.flushBuffered io).2 := by
  unfold flushBuffered
  split_ifs
  · exact Quiet.refl j
  · exact Quiet.refl j
  · cases io.flushStops with
    | none =>
      exact ⟨prefix_refl _, by simp [records, written, pending], by simp [pending]⟩
    | some n =>
      refine ⟨prefix_refl _, ?_, ?_⟩
      · simp only [records, written, pending, append_assoc]
        rw [← append_assoc (List.take n _), take_append_drop]
      · exact List.append_subset.mpr ⟨fun _ h => mem_append_left _ (mem_of_mem_drop h),
          subset_append_right _ _⟩

lemma flushQueued_quiet (j : OmsJournal) (io : AppendIo) : Quiet j (j.flushQueued io).2 := by
  have h : Quiet j { j with bufferedLines := j.pending, asyncQueue := [] } :=
    ⟨prefix_refl _, by simp [records, written, pending], by simp [pending]⟩
  exact h.trans (flushBuffered_quiet _ io)

lemma flushBuffered_poisoned (h : j.writePoisoned = true) (io : AppendIo) :
    (j.flushBuffered io).2.writePoisoned = true := by
  unfold flushBuffered
  split_ifs <;> exact h

lemma flushQueued_poisoned (h : j.writePoisoned = true) (io : AppendIo) :
    (j.flushQueued io).2.writePoisoned = true :=
  flushBuffered_poisoned (j := { j with bufferedLines := j.pending, asyncQueue := [] }) h io

lemma flushBeforeCritical_quiet (cfg : OmsJournalConfig) (j : OmsJournal) (io : AppendIo) :
    Quiet j (flushBeforeCritical cfg j io).2 := by
  unfold flushBeforeCritical
  split_ifs
  · exact flushQueued_quiet j io
  · exact Quiet.refl j
  · exact flushBuffered_quiet j io

lemma flushBuffered_pending (j : OmsJournal) (io : AppendIo) :
    (j.flushBuffered io).2.bufferedLines ⊆ j.bufferedLines ∧
      (j.flushBuffered io).2.asyncQueue = j.asyncQueue := by
  unfold flushBuffered
  split_ifs
  · exact ⟨List.Subset.refl _, rfl⟩
  · exact ⟨List.Subset.refl _, rfl⟩
  · cases io.flushStops with
    | none => exact ⟨nil_subset _, rfl⟩
    | some n => exact ⟨drop_subset n _, rfl⟩

lemma flushQueued_pending (j : OmsJournal) (io : AppendIo) :
    (j.flushQueued io).2.bufferedLines ⊆ j.pending ∧ (j.flushQueued io).2.asyncQueue = [] :=
  flushBuffered_pending _ io

lemma flushBuffered_ok (h : (j.flushBuffered io).1 = true) :
    (j.flushBuffered io).2.bufferedLines = [] ∧
      (j.flushBuffered io).2.writePoisoned = j.writePoisoned := by
  unfold flushBuffered at h ⊢
  split_ifs at h ⊢ with hb hp
  · exact ⟨hb, rfl⟩
  · cases hf : io.flushStops <;> simp_all

lemma flushBuffered_ordered (h : Ordered cfg j) (io : AppendIo) :
    Ordered cfg (j.flushBuffered io).2 := by
  obtain ⟨hb, hq⟩ := flushBuffered_pending j io
  have hp : (j.flushBuffered io).2.pending ⊆ j.pending := by
    rw [pending, hq]
    exact List.append_subset.mpr
      ⟨List.Subset.trans hb (subset_append_left _ _), subset_append_right _ _⟩
  exact ⟨fun ha => hq.trans (h.queue ha), fun hs e he => h.critical hs e (hp he),
    fun e he => h.opening e (hp he)⟩

lemma flushQueued_ordered (h : Ordered cfg j) (io : AppendIo) :
    Ordered cfg (j.flushQueued io).2 := by
  obtain ⟨hb, hq⟩ := flushQueued_pending j io
  have hp : (j.flushQueued io).2.pending ⊆ j.pending := by
    rwa [pending, hq, append_nil]
  exact ⟨fun _ => hq, fun hs e he => h.critical hs e (hp he), fun e he => h.opening e (hp he)⟩

lemma flushBeforeCritical_ordered (h : Ordered cfg j) (io : AppendIo) :
    Ordered cfg (flushBeforeCritical cfg j io).2 := by
  unfold flushBeforeCritical
  split_ifs
  · exact flushQueued_ordered h io
  · exact h
  · exact flushBuffered_ordered h io

lemma flushQueued_ok (h : j.flushQueued io = (true, j')) :
    j'.pending = [] ∧ j'.written = j.records := by
  have hq := flushQueued_quiet j io
  have hb : (j.flushQueued io).2.bufferedLines = [] :=
    (flushBuffered_ok (congrArg Prod.fst h)).1
  have hu := (flushQueued_pending j io).2
  rw [h] at hq hb hu
  have hp : j'.pending = [] := List.append_eq_nil_iff.mpr ⟨hb, hu⟩
  exact ⟨hp, by rw [← hq.records, records, hp, append_nil]⟩

/-! ### Writing one record -/

lemma enters_written (hw : Overtakes cfg e j.pending) (hs : j.synced <+: j'.synced)
    (hr : j'.written = j.written ++ [e]) (hp : j'.pending = j.pending) : Enters cfg e j j' :=
  ⟨hs, j.written, j.pending, rfl, by simp [records, hr, hp], hw,
    List.Subset.refl _⟩

lemma enters_pending (hs : j.synced <+: j'.synced)
    (hr : j'.records = j.records ++ [e]) : Enters cfg e j j' :=
  ⟨hs, j.records, [], by simp, hr,
    ⟨by simp, by simp, by simp, by simp, by simp, by simp⟩, nil_subset _⟩

/-- The flush before a critical write leaves nothing that `e` may not overtake. -/
lemma flushBeforeCritical_overtakes (h : Ordered cfg j)
    (heq : flushBeforeCritical cfg j io = (true, j₁)) (hr : e.eventType.isCritical = true)
    (he : cfg.syncCritical = true ∨ e.eventType.opensPlace = true) :
    Overtakes cfg e j₁.pending := by
  have ho : Ordered cfg j₁ := by
    have := flushBeforeCritical_ordered h io
    rwa [heq] at this
  have hy : cfg.asyncEnabled = false → j₁.pending = [] := by
    intro ha
    simp only [flushBeforeCritical, ha, Bool.false_eq_true, if_false] at heq
    have hbf := (flushBuffered_ok (congrArg Prod.fst heq)).1
    rw [heq] at hbf
    exact List.append_eq_nil_iff.mpr ⟨hbf, ho.queue ha⟩
  refine ⟨hy, by simp [hr], ho.opening, fun b hb hc => ?_, fun hf => ?_, fun hs hp => ?_⟩
  · rcases he with hs | he
    · exact absurd hc (by simp [ho.critical hs b hb])
    · exact he
  · cases ha : cfg.asyncEnabled with
    | false => exact hy ha
    | true =>
      simp only [flushBeforeCritical, ha, hf, if_true] at heq
      exact (flushQueued_ok heq).1
  · rcases he with hs' | he
    · simp [hs] at hs'
    · simp [hp] at he

lemma writeLine_pending (j : OmsJournal) (e : OmsJournalEvent) (durable : Bool) (io : AppendIo) :
    (j.writeLine e durable io).2.pending = j.pending ∧
      (j.writeLine e durable io).2.asyncQueue = j.asyncQueue := by
  unfold writeLine
  cases io.write <;> split_ifs <;> exact ⟨rfl, rfl⟩

lemma writeLine_ordered (h : Ordered cfg j) (e : OmsJournalEvent) (durable : Bool)
    (io : AppendIo) : Ordered cfg (j.writeLine e durable io).2 := by
  obtain ⟨hp, hq⟩ := writeLine_pending j e durable io
  exact ⟨fun ha => hq.trans (h.queue ha), hp ▸ h.critical, hp ▸ h.opening⟩

lemma synced_prefix_written (j : OmsJournal) (l : List OmsJournalEvent) :
    j.synced <+: j.written ++ l := by
  rw [written, append_assoc]
  exact prefix_append _ _

lemma writeLine_ok (h : j.writeLine e durable io = (true, j')) :
    j.writePoisoned = false ∧ j'.writePoisoned = false ∧ j.synced <+: j'.synced ∧
      j'.written = j.written ++ [e] ∧ (durable = true → j'.synced = j.written ++ [e]) := by
  by_cases hp : j.writePoisoned = true
  · simp [writeLine, hp] at h
  rw [writeLine, if_neg hp] at h
  have hp : j.writePoisoned = false := by simpa using hp
  cases hw : io.write <;> cases durable <;>
    simp only [hw, Prod.mk.injEq, Bool.false_eq_true, false_and, if_true, if_false, true_and] at h
  · subst h
    exact ⟨hp, hp, prefix_refl _, by simp [written], by simp⟩
  · subst h
    exact ⟨hp, hp, synced_prefix_written _ _, by simp [written], fun _ => rfl⟩

lemma writeLine_failed (ht : Overtakes cfg e j.pending)
    (h : j.writeLine e durable io = (false, j')) : Spoils cfg e j j' := by
  have hp := (writeLine_pending j e durable io).1
  rw [h] at hp
  by_cases hs : j.writePoisoned = true
  · rw [writeLine, if_pos hs] at h
    exact .inl ((Prod.mk.inj h).2 ▸ Quiet.refl j)
  rw [writeLine, if_neg hs] at h
  cases hw : io.write <;> cases durable <;>
    simp only [hw, Prod.mk.injEq, Bool.true_eq_false, false_and, if_true, if_false, true_and,
      Bool.false_eq_true] at h <;> subst h
  case torn.false => exact .inl ⟨prefix_refl _, rfl, List.Subset.refl _⟩
  case torn.true => exact .inl ⟨prefix_refl _, rfl, List.Subset.refl _⟩
  case unacknowledged.true =>
    exact .inr ⟨enters_written ht (synced_prefix_written _ _) (by simp [written]) hp,
      rfl⟩
  all_goals
    exact .inr ⟨enters_written ht (prefix_refl _) (by simp [written]) hp, rfl⟩

/-! ### Appending -/

lemma queueLine_enters (h : cfg.asyncEnabled = false → j.asyncQueue = []) (e : OmsJournalEvent) :
    Enters cfg e j (j.queueLine e cfg.asyncEnabled) := by
  cases ha : cfg.asyncEnabled with
  | false =>
    exact enters_pending (prefix_refl _)
      (by simp [queueLine, records, written, pending, h ha])
  | true =>
    exact enters_pending (prefix_refl _) (by simp [queueLine, records, written, pending])

lemma mem_pending_queueLine {b : OmsJournalEvent} {asy : Bool}
    (h : b ∈ (j.queueLine e asy).pending) : b ∈ j.pending ∨ b = e := by
  cases asy <;>
    simp only [queueLine, pending, Bool.false_eq_true, if_true, if_false, mem_append,
      mem_singleton] at h ⊢ <;> tauto

lemma queueLine_ordered (h : Ordered cfg j)
    (he : cfg.syncCritical = true → e.eventType.isCritical = false)
    (ho : e.eventType.opensPlace = false) : Ordered cfg (j.queueLine e cfg.asyncEnabled) where
  queue ha := by simpa [queueLine, ha] using h.queue ha
  critical hs b hb := by
    rcases mem_pending_queueLine hb with hb | rfl
    · exact h.critical hs b hb
    · exact he hs
  opening b hb := by
    rcases mem_pending_queueLine hb with hb | rfl
    · exact h.opening b hb
    · exact ho

lemma queueLine_flushBuffered (h : Ordered cfg j) (ha : cfg.asyncEnabled = false)
    (he : cfg.syncCritical = true → e.eventType.isCritical = false)
    (hop : e.eventType.opensPlace = false) (hp : j.writePoisoned = false)
    (heq : (j.queueLine e false).flushBuffered io = (ok, j')) : Enters cfg e j j' ∧ Ordered cfg j' ∧
    j'.writePoisoned = !ok := by
  have hq := flushBuffered_quiet (j.queueLine e false) io
  have ho := flushBuffered_ordered (ha ▸ queueLine_ordered h he hop) io
  have hen := ha ▸ queueLine_enters h.queue e
  rw [heq] at hq ho
  obtain ⟨front, back, hj, hj', hb⟩ := hen.inserted
  refine ⟨⟨hen.synced.trans hq.synced, front, back, hj, hq.records.trans hj', hb⟩, ho, ?_⟩
  simp only [flushBuffered, queueLine, Bool.false_eq_true, if_false, hp,
    append_ne_nil_of_right_ne_nil _ (cons_ne_nil e [])] at heq
  cases hf : io.flushStops <;> simp only [hf, Prod.mk.injEq] at heq <;>
    obtain ⟨rfl, rfl⟩ := heq <;> simp

lemma flush_writeLine (h : Ordered cfg j) (hs : cfg.syncCritical = true)
    (hc : e.eventType.isCritical = true)
    (heq : (match flushBeforeCritical cfg j io with
      | (true, j) => j.writeLine e true io
      | (false, j) => (false, j)) = (ok, j')) :
    Ordered cfg j' ∧
      (ok = true → Enters cfg e j j' ∧ j'.writePoisoned = false ∧ e ∈ j'.synced) ∧
      (ok = false → Spoils cfg e j j') := by
  have hq := flushBeforeCritical_quiet cfg j io
  have ho := flushBeforeCritical_ordered h io
  rcases hf : flushBeforeCritical cfg j io with ⟨_ | _, j₁⟩ <;>
    rw [hf] at hq ho heq <;> simp only at heq hq ho
  · obtain ⟨rfl, rfl⟩ := Prod.mk.inj heq
    exact ⟨ho, by simp, fun _ => .inl hq⟩
  have hw : Overtakes cfg e j₁.pending :=
    flushBeforeCritical_overtakes h hf hc (.inl hs)
  have ho' := writeLine_ordered ho e true io
  have hpn := (writeLine_pending j₁ e true io).1
  rw [heq] at ho' hpn
  refine ⟨ho', ?_, ?_⟩
  · rintro rfl
    obtain ⟨-, hp', hy, hr, hd⟩ := writeLine_ok heq
    exact ⟨hq.enters (enters_written hw hy hr hpn), hp',
      by simp [hd rfl]⟩
  · rintro rfl
    exact hq.spoils (writeLine_failed hw heq)

lemma append_spec (h : Ordered cfg j) (hop : e.eventType.opensPlace = false)
    (heq : j.append cfg e io = (ok, j')) :
    Ordered cfg j' ∧
      (ok = true → Enters cfg e j j' ∧ j'.writePoisoned = false ∧
        (cfg.syncCritical = true → e.eventType.isCritical = true → e ∈ j'.synced)) ∧
      (ok = false → Spoils cfg e j j') := by
  unfold append at heq
  split at heq
  · obtain ⟨rfl, rfl⟩ := Prod.mk.inj heq
    exact ⟨h, by simp, fun _ => .inl (Quiet.refl j)⟩
  rename_i hps
  have hps : j.writePoisoned = false := by simpa using hps
  split at heq
  · obtain ⟨rfl, rfl⟩ := Prod.mk.inj heq
    exact ⟨⟨h.queue, h.critical, h.opening⟩, by simp,
      fun _ => .inl ⟨prefix_refl _, rfl, List.Subset.refl _⟩⟩
  split at heq
  · obtain ⟨rfl, rfl⟩ := Prod.mk.inj heq
    exact ⟨h, by simp, fun _ => .inl (Quiet.refl j)⟩
  -- a record that only waits, or is flushed without a sync
  have hqu : ∀ (he : cfg.syncCritical = true → e.eventType.isCritical = false),
      cfg.asyncEnabled = true → (true, j.queueLine e true) = (ok, j') →
      Ordered cfg j' ∧ (ok = true → Enters cfg e j j' ∧ j'.writePoisoned = false) ∧
        (ok = false → Spoils cfg e j j') := by
    intro he ha hq
    obtain ⟨rfl, rfl⟩ := Prod.mk.inj hq
    exact ⟨ha ▸ queueLine_ordered h he hop, fun _ => ⟨ha ▸ queueLine_enters h.queue e,
      by simp [queueLine, hps]⟩, by simp⟩
  have hu : ∀ (he : cfg.syncCritical = true → e.eventType.isCritical = false),
      cfg.asyncEnabled = false → (j.queueLine e false).flushBuffered io = (ok, j') →
      Ordered cfg j' ∧ (ok = true → Enters cfg e j j' ∧ j'.writePoisoned = false) ∧
        (ok = false → Spoils cfg e j j') := by
    intro he ha hf
    obtain ⟨hen, ho, hp⟩ := queueLine_flushBuffered h ha he hop hps hf
    exact ⟨ho, fun hk => ⟨hen, by simp [hp, hk]⟩, fun hk => .inr ⟨hen, by simp [hp, hk]⟩⟩
  split at heq
  · rename_i hr
    split at heq
    · rename_i hy
      obtain ⟨ho, hk, hl⟩ := flush_writeLine h hy hr heq
      exact ⟨ho, fun hb => ⟨(hk hb).1, (hk hb).2.1, fun _ _ => (hk hb).2.2⟩, hl⟩
    · rename_i hy
      have he : cfg.syncCritical = true → e.eventType.isCritical = false :=
        fun hs => absurd hs hy
      have hw : ∀ {P : Prop}, (cfg.syncCritical = true → P) := fun hs => absurd hs hy
      split at heq
      · rename_i ha
        obtain ⟨ho, hk, hl⟩ := hqu he ha heq
        exact ⟨ho, fun hb => ⟨(hk hb).1, (hk hb).2, hw⟩, hl⟩
      · rename_i ha
        obtain ⟨ho, hk, hl⟩ := hu he (by simpa using ha) heq
        exact ⟨ho, fun hb => ⟨(hk hb).1, (hk hb).2, hw⟩, hl⟩
  · rename_i hr
    have hr : e.eventType.isCritical = false := by simpa using hr
    have hw : cfg.syncCritical = true → e.eventType.isCritical = true → e ∈ j'.synced :=
      fun _ hc => absurd hc (by simp [hr])
    split at heq
    · rename_i ha
      obtain ⟨ho, hk, hl⟩ := hqu (fun _ => hr) ha heq
      exact ⟨ho, fun hb => ⟨(hk hb).1, (hk hb).2, hw⟩, hl⟩
    · rename_i ha
      have ha : cfg.asyncEnabled = false := by simpa using ha
      simp only at heq
      split at heq
      · obtain ⟨ho, hk, hl⟩ := hu (fun _ => hr) ha heq
        exact ⟨ho, fun hb => ⟨(hk hb).1, (hk hb).2, hw⟩, hl⟩
      · obtain ⟨rfl, rfl⟩ := Prod.mk.inj heq
        exact ⟨ha ▸ queueLine_ordered h (fun _ => hr) hop,
          fun _ => ⟨ha ▸ queueLine_enters h.queue e, by simp [queueLine, hps], hw⟩,
          by simp⟩

lemma appendDurablePair_spec (h : Ordered cfg j) {a b : OmsJournalEvent}
    (ha : a.eventType.opensPlace = true) (hb : b.eventType.opensPlace = true)
    {result : DurablePairResult} (heq : j.appendDurablePair cfg a b io io' = (result, j')) :
    Ordered cfg j' ∧
      (result = .committed → j.writePoisoned = false ∧ j'.writePoisoned = false ∧ b ∈ j'.synced ∧
        ∃ j₁, Enters cfg a j j₁ ∧ j₁.writePoisoned = false ∧ Enters cfg b j₁ j') ∧
      (result ≠ .committed → Spoils cfg a j j' ∨ j.writePoisoned = false ∧
        ∃ j₁, Enters cfg a j j₁ ∧ j₁.writePoisoned = false ∧ Spoils cfg b j₁ j') := by
  have hu : ∀ {r : DurablePairResult} {j₂ : OmsJournal}, (r, j₂) = (result, j') →
      r ≠ .committed → Ordered cfg j₂ → Quiet j j₂ → Ordered cfg j' ∧
      (result = .committed → j.writePoisoned = false ∧ j'.writePoisoned = false ∧ b ∈ j'.synced ∧
        ∃ j₁, Enters cfg a j j₁ ∧ j₁.writePoisoned = false ∧ Enters cfg b j₁ j') ∧
      (result ≠ .committed → Spoils cfg a j j' ∨ j.writePoisoned = false ∧
        ∃ j₁, Enters cfg a j j₁ ∧ j₁.writePoisoned = false ∧ Spoils cfg b j₁ j') := by
    intro r j₂ hpr hr ho hq
    obtain ⟨rfl, rfl⟩ := Prod.mk.inj hpr
    exact ⟨ho, fun hc => absurd hc hr, fun _ => .inl (.inl hq)⟩
  unfold appendDurablePair at heq
  split at heq
  · exact hu heq (by simp) h (Quiet.refl j)
  rename_i hps
  have hps : j.writePoisoned = false := by simpa using hps
  split at heq
  · exact hu heq (by simp) ⟨h.queue, h.critical, h.opening⟩
      ⟨prefix_refl _, rfl, List.Subset.refl _⟩
  split at heq
  · exact hu heq (by simp) h (Quiet.refl j)
  split at heq
  · exact hu heq (by simp) h (Quiet.refl j)
  have hq := flushBeforeCritical_quiet cfg j io
  have ho := flushBeforeCritical_ordered h io
  split at heq <;> rename_i j₁ hl <;> rw [hl] at hq ho
  · exact hu heq (by simp) ho hq
  have hw₁ : Overtakes cfg a j₁.pending :=
    flushBeforeCritical_overtakes h hl (EventType.isCritical_of_opensPlace ha) (.inr ha)
  have ho₁ := writeLine_ordered ho a false io
  have hp₁ := (writeLine_pending j₁ a false io).1
  split at heq <;> rename_i j₂ hfs <;> rw [hfs] at ho₁ hp₁
  · obtain ⟨rfl, rfl⟩ := Prod.mk.inj heq
    exact ⟨ho₁, by simp, fun _ => .inl (hq.spoils (writeLine_failed hw₁ hfs))⟩
  obtain ⟨-, hso₂, hy₁, hwr₁, -⟩ := writeLine_ok hfs
  have hfs' : Enters cfg a j j₂ := hq.enters (enters_written hw₁ hy₁ hwr₁ hp₁)
  have hw₂ : Overtakes cfg b j₂.pending :=
    ⟨fun hf => hp₁.trans (hw₁.async hf), by simp [EventType.isCritical_of_opensPlace hb],
      ho₁.opening, fun _ _ _ => hb, fun hf => hp₁.trans (hw₁.flushed hf),
      fun _ hop => absurd hb (by simp [hop])⟩
  have ho₂ := writeLine_ordered ho₁ b true io'
  have hp₂ := (writeLine_pending j₂ b true io').1
  split at heq <;> rename_i j₃ hs <;> rw [hs] at ho₂ hp₂ <;>
    obtain ⟨rfl, rfl⟩ := Prod.mk.inj heq
  · exact ⟨ho₂, by simp, fun _ => .inr ⟨hps, j₂, hfs', hso₂,
      writeLine_failed hw₂ hs⟩⟩
  · obtain ⟨-, hp, hy₂, hwr₂, hd⟩ := writeLine_ok hs
    exact ⟨ho₂, fun _ => ⟨hps, hp, by simp [hd rfl], j₂, hfs', hso₂,
      enters_written hw₂ hy₂ hwr₂ hp₂⟩, by simp⟩

/-! ### Clean appends -/

lemma flushBuffered_clean (hp : j.writePoisoned = false) (hi : io.flushStops = none) :
    (j.flushBuffered io).1 = true ∧ (j.flushBuffered io).2.writePoisoned = false := by
  unfold flushBuffered
  split_ifs <;> simp_all

lemma flushQueued_clean (hp : j.writePoisoned = false) (hi : io.flushStops = none) :
    (j.flushQueued io).1 = true ∧ (j.flushQueued io).2.writePoisoned = false :=
  flushBuffered_clean (j := { j with bufferedLines := j.pending, asyncQueue := [] }) hp hi

lemma flushBeforeCritical_clean (cfg : OmsJournalConfig) (hp : j.writePoisoned = false)
    (hi : io.flushStops = none) :
    (flushBeforeCritical cfg j io).1 = true ∧
      (flushBeforeCritical cfg j io).2.writePoisoned = false := by
  unfold flushBeforeCritical
  split_ifs
  · exact flushQueued_clean hp hi
  · exact ⟨rfl, hp⟩
  · exact flushBuffered_clean hp hi

lemma writeLine_clean (hp : j.writePoisoned = false) (hi : io.write = .none)
    (e : OmsJournalEvent) (durable : Bool) : (j.writeLine e durable io).1 = true := by
  simp only [writeLine, hp, hi, Bool.false_eq_true, if_false]
  split_ifs <;> rfl

lemma append_clean (cfg : OmsJournalConfig) (hs : j.writePoisoned = false)
    (hi : io.clean) (e : OmsJournalEvent) : (j.append cfg e io).1 = true := by
  obtain ⟨hr, ht, hl, hw⟩ := hi
  have hq : (j.queueLine e false).writePoisoned = false := hs
  simp only [append, hs, ht, hr, Bool.false_eq_true, if_false]
  split_ifs
  · obtain ⟨ho, hp⟩ := flushBeforeCritical_clean cfg hs hl
    rcases hf : flushBeforeCritical cfg j io with ⟨ok, _⟩
    rw [hf] at ho hp
    obtain rfl : ok = true := ho
    exact writeLine_clean hp hw e true
  · rfl
  · exact (flushBuffered_clean hq hl).1
  · rfl
  · exact (flushBuffered_clean hq hl).1
  · rfl

lemma appendDurablePair_clean (cfg : OmsJournalConfig) (hs : j.writePoisoned = false)
    (hi : io.clean) (hi' : io'.clean) {a b : OmsJournalEvent} (ha : a.eventType.isCritical = true)
    (hb : b.eventType.isCritical = true) : (j.appendDurablePair cfg a b io io').1 = .committed := by
  obtain ⟨hr, ht, hl, hwr⟩ := hi
  obtain ⟨hr', -, -, hwr'⟩ := hi'
  simp only [appendDurablePair, hs, ht, hr, hr', ha, hb, Bool.false_eq_true,
    if_false, Bool.not_true, Bool.or_false]
  obtain ⟨ho, hp⟩ := flushBeforeCritical_clean cfg hs hl
  rcases hf : flushBeforeCritical cfg j io with ⟨ok, j₁⟩
  rw [hf] at ho hp
  obtain rfl : ok = true := ho
  rcases hw : j₁.writeLine a false io with ⟨ok, j₂⟩
  obtain rfl : ok = true := by simpa [hw] using writeLine_clean hp hwr a false
  rcases hw' : j₂.writeLine b true io' with ⟨ok, _⟩
  obtain rfl : ok = true := by
    simpa [hw'] using writeLine_clean (writeLine_ok hw).2.1 hwr' b true
  simp [hw, hw']

/-! ### Reading back -/

lemma replay_some {io : ReplayIo} {es : List OmsJournalEvent}
    (heq : j.replay io = (some es, j')) :
    es = j.records ∧ j'.synced = j.records ∧ j'.records = j.records ∧
      j'.pending = [] ∧ j'.writePoisoned = false := by
  unfold replay at heq
  rcases hf : j.flushQueued { flushStops := io.flushStops, nowMs := io.nowMs } with ⟨_ | _, j₁⟩ <;>
    rw [hf] at heq <;> simp only at heq
  · simp at heq
  obtain ⟨hp, hw⟩ := flushQueued_ok hf
  split at heq
  · simp at heq
  rename_i hs
  split at heq
  · simp at heq
  split at heq
  · simp at heq
  obtain ⟨he, rfl⟩ := Prod.mk.inj heq
  refine ⟨(Option.some.inj he).symm.trans hw, hw, ?_, hp,
    by simpa using hs⟩
  change (j₁.written ++ []) ++ j₁.pending = j.records
  rw [hp, hw, append_nil, append_nil]

/-- A journal that cannot be read back keeps its records. -/
lemma replay_none {io : ReplayIo} (heq : j.replay io = (none, j')) : Quiet j j' := by
  unfold replay at heq
  have hq := flushQueued_quiet j { flushStops := io.flushStops, nowMs := io.nowMs }
  rcases hf : j.flushQueued { flushStops := io.flushStops, nowMs := io.nowMs } with ⟨_ | _, j₁⟩ <;>
    rw [hf] at heq hq <;> simp only at heq hq
  · exact (Prod.mk.inj heq).2 ▸ hq
  split at heq
  · exact (Prod.mk.inj heq).2 ▸ hq
  split at heq
  · exact (Prod.mk.inj heq).2 ▸ ⟨hq.synced, hq.records, hq.pending⟩
  split at heq
  · refine (Prod.mk.inj heq).2 ▸ ⟨hq.synced.trans (prefix_append _ _), ?_, hq.pending⟩
    rw [← hq.records]
    simp [records, written, pending]
  · simp at heq

lemma replay_poisoned (h : j.writePoisoned = true) (io : ReplayIo) :
    (j.replay io).2.writePoisoned = true := by
  have hp := flushQueued_poisoned h { flushStops := io.flushStops, nowMs := io.nowMs }
  unfold replay
  split <;> rename_i j₁ hf <;> rw [hf] at hp
  · exact hp
  · have hp : j₁.writePoisoned = true := hp
    rw [if_pos hp]
    exact hp

lemma replay_ordered (h : Ordered cfg j) (io : ReplayIo) : Ordered cfg (j.replay io).2 := by
  have ho := flushQueued_ordered h { flushStops := io.flushStops, nowMs := io.nowMs }
  unfold replay
  split <;> rename_i j₁ hf <;> rw [hf] at ho
  · exact ho
  split_ifs
  · exact ho
  · exact ⟨ho.queue, ho.critical, ho.opening⟩
  · exact ⟨ho.queue, ho.critical, ho.opening⟩
  · exact ⟨ho.queue, ho.critical, ho.opening⟩

lemma replay_clean (hs : j.writePoisoned = false) : (j.replay {}).1 = some j.records := by
  obtain ⟨ho, hp⟩ := @flushQueued_clean j {} hs rfl
  rcases hf : j.flushQueued {} with ⟨ok, j₁⟩
  rw [hf] at ho hp
  obtain rfl : ok = true := ho
  have hp : j₁.writePoisoned = false := hp
  simp [replay, hf, hp, (flushQueued_ok hf).2]

lemma afterCrash_ordered (j : OmsJournal) : Ordered cfg j.afterCrash :=
  ⟨fun _ => rfl, by simp [afterCrash, pending], by simp [afterCrash, pending]⟩

lemma afterCrash_records (j : OmsJournal) : j.afterCrash.records = j.synced := by
  simp [afterCrash, records, written, pending]

end OmsJournal

end Hepta
