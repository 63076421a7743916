import Hepta.Safety.AtMostOnce

/-!
# The send budget

A placement with a send-attempt limit is refused when the index of send attempts has used up its
budget. Placements and flattens feed the index before their venue calls, and recovery rebuilds it
from the first send of every command, so the limit also holds over crashes. A recovery that fails
clears the index, and only the block that it leaves then keeps the limit.
-/

namespace Hepta

open Coordinator List Option OmsJournal RequestRecord Hepta.System Stage

def OmsJournalEvent.isSend (event : OmsJournalEvent) : Bool :=
  event.isCommand && isSendEvidence event.eventType

/-- The sends among the records, in the order of the file. -/
def OmsJournal.sends (j : OmsJournal) : List OmsJournalEvent :=
  j.records.filter OmsJournalEvent.isSend

def AttemptsFirst (sends : List OmsJournalEvent) : Prop :=
  sends.Pairwise fun a b => b.eventType.isSendAttempt = true → a.requestKey ≠ b.requestKey

variable {S : Service} {A : Allowance} {s s' : System} {e : OmsJournalEvent}

lemma isCritical_of_isSend (h : e.isSend = true) : e.eventType.isCritical = true := by
  simp only [OmsJournalEvent.isSend, Bool.and_eq_true] at h
  have hs := h.2
  revert hs
  cases e.eventType <;> simp [isSendEvidence, EventType.isCritical]

/-! ### Replay finds the send attempts -/

namespace Coordinator

variable {events : List OmsJournalEvent}

lemma mem_sendIndex_keys {key : String} :
    key ∈ (events.foldl sendStep (∅, [])).1 ↔
      ∃ e ∈ events, e.isSend = true ∧ e.requestKey = key := by
  induction events using reverseRecOn with
  | nil => simp
  | append_singleton events e ih =>
    rw [foldl_append, foldl_cons, foldl_nil]
    have hl : (∃ b ∈ events ++ [e], b.isSend = true ∧ b.requestKey = key) ↔
        (∃ b ∈ events, b.isSend = true ∧ b.requestKey = key) ∨
          (e.isSend = true ∧ e.requestKey = key) := by
      simp [or_and_right, exists_or]
    rw [hl, ← ih]
    unfold sendStep
    split_ifs with hsn
    · have hs : e.isSend = true := by simp [OmsJournalEvent.isSend, hsn.1, hsn.2.1]
      rw [Finset.mem_insert, or_comm]
      simp only [hs, true_and, eq_comm (a := key)]
    · refine ⟨.inl, fun h => h.elim id ?_⟩
      rintro ⟨hs, rfl⟩
      simp only [OmsJournalEvent.isSend, Bool.and_eq_true] at hs
      by_contra hm
      exact hsn ⟨hs.1, hs.2, hm⟩

lemma sendStep_kept (ix : Finset String × List PlaceSendAttempt) (et : OmsJournalEvent) :
    ix.2 ⊆ (sendStep ix et).2 := by
  unfold sendStep
  split_ifs
  · exact subset_append_left _ _
  · exact List.Subset.refl _

lemma mem_placeSendAttempts_replay (hf : AttemptsFirst (events.filter OmsJournalEvent.isSend))
    (hm : e ∈ events) (hs : e.isSend = true) (ht : e.eventType.isSendAttempt = true) :
    e.sendAttempt ∈ (replay events).placeSendAttempts := by
  obtain ⟨front, back, rfl⟩ := append_of_mem hm
  rw [filter_append, filter_cons_of_pos hs, AttemptsFirst, pairwise_append] at hf
  have hnew : e.requestKey ∉ (front.foldl sendStep (∅, [])).1 := by
    rw [mem_sendIndex_keys]
    rintro ⟨a, ha, hsn, hk⟩
    exact hf.2.2 a (List.mem_filter.mpr ⟨ha, hsn⟩) e mem_cons_self ht hk
  have hi : (replay (front ++ e :: back)).placeSendAttempts =
      ((front ++ e :: back).foldl sendStep (∅, [])).2 := congrArg Prod.snd (sendIndex_replay _)
  rw [hi, foldl_append, foldl_cons]
  refine foldlRecOn back sendStep (motive := fun ix => e.sendAttempt ∈ ix.2) ?_
    (fun ix h et _ => sendStep_kept ix et h)
  simp only [OmsJournalEvent.isSend, Bool.and_eq_true] at hs
  simp [sendStep, hs.1, hs.2, hnew, OmsJournalEvent.sendAttempt]

end Coordinator

/-! ### The order of the sends -/

namespace Stage

variable {stage after : Stage}

/-- Nothing has been sent yet. -/
def unsent : Stage → Bool
  | .fresh | .intended _ => true
  | _ => false

lemma next_send (h : stage.next e = some after)
    (hs : isSendEvidence e.eventType = true) :
    (stage.unsent = true → e.eventType.isSendAttempt = true) ∧
      (e.eventType.isSendAttempt = true → stage.unsent = true) ∧ after.unsent = false := by
  have ht : e.eventType = .placeSendAttempt ∨ e.eventType = .placeSent ∨
      e.eventType = .flattenSendAttempt ∨ e.eventType = .flattenSent := by
    revert hs
    cases e.eventType <;> simp [isSendEvidence]
  cases stage with
  | fresh => rcases ht with ht | ht | ht | ht <;> simp [next, ht] at h
  | intended operation | attempted operation | unresolved operation =>
    cases operation <;> rcases ht with ht | ht | ht | ht <;>
      simp [next, outcome, resolvedBy, ht] at h <;> grind [unsent, EventType.isSendAttempt]
  | reserved | sent _ | projectionFailed _ | closed _ =>
    rcases ht with ht | ht | ht | ht <;> simp [next, ht] at h

/-- What has been sent stays sent. -/
lemma unsent_of_next (h : stage.next e = some after) (ha : after.unsent = true) :
    stage.unsent = true := by
  cases stage with
  | fresh | intended _ => rfl
  | attempted operation =>
    cases operation <;> cases ht : e.eventType <;>
      simp [next, outcome, resolvedBy, ht] at h <;> grind [unsent]
  | reserved =>
    cases ht : e.eventType <;> simp [next, ht] at h <;> subst h <;> simp [unsent] at ha
  | unresolved =>
    simp only [next, ite_none_right_eq_some, Option.some.injEq] at h
    simp [← h.2, unsent] at ha
  | sent =>
    simp only [next, ite_none_right_eq_some, Option.some.injEq] at h
    simp [← h.2, unsent] at ha
  | projectionFailed _ | closed _ => simp [next] at h

end Stage

namespace OmsJournal

variable {cfg : OmsJournalConfig} {j j' : OmsJournal} {events : List OmsJournalEvent}
  {stage after : Stage} {key : String}

lemma mem_sends : e ∈ j.sends ↔ e ∈ j.records ∧ e.isSend = true := mem_filter

lemma Enters.sends_of_not_isSend (h : Enters cfg e j j') (he : e.isSend = false) :
    j'.sends = j.sends := by
  obtain ⟨_, _, hj, hj', -⟩ := h.inserted
  simp [sends, hj, hj', he]

lemma Journaled.sends_of_not_isSend (h : Journaled cfg j events j')
    (he : ∀ e ∈ events, e.isSend = false) : j'.sends = j.sends := by
  induction h with
  | quiet h => simp [sends, h.records]
  | enter h _ ih =>
    rw [forall_mem_cons] at he
    rw [ih he.2, h.sends_of_not_isSend he.1]

lemma Enters.attemptsFirst (h : Enters cfg e j j') (he : e.isSend = true)
    (hf : AttemptsFirst j.sends)
    (hw : e.eventType.isSendAttempt = true → ∀ b ∈ j.sends, b.requestKey ≠ e.requestKey) :
    AttemptsFirst j'.sends := by
  obtain ⟨front, back, hj, hj', hov, -⟩ := h.inserted
  rw [sends, hj, filter_append, AttemptsFirst, pairwise_append] at hf
  obtain ⟨hr, hbc, hc⟩ := hf
  have hm : ∀ b, b ∈ front.filter OmsJournalEvent.isSend ∨
      b ∈ back.filter OmsJournalEvent.isSend → b ∈ j.sends := by
    intro b hb
    rw [sends, hj, filter_append]
    exact List.mem_append.mpr hb
  have hh : ∀ b ∈ back.filter OmsJournalEvent.isSend,
      b.eventType.isSendAttempt = true → e.requestKey ≠ b.requestKey := by
    intro b hb ht
    obtain ⟨hbm, hbs⟩ := List.mem_filter.mp hb
    -- only the attempt of a placement overtakes a critical record
    have ho := hov.critical b hbm (isCritical_of_isSend hbs)
    have hs : e.eventType.isSendAttempt = true := by
      simp only [OmsJournalEvent.isSend, Bool.and_eq_true] at he
      have hv := he.2
      revert ho hv
      cases e.eventType <;>
        simp [EventType.opensPlace, isSendEvidence, EventType.isSendAttempt]
    exact Ne.symm (hw hs b (hm b (.inr hb)))
  rw [sends, hj', filter_append, filter_cons_of_pos he, AttemptsFirst,
    pairwise_append, pairwise_cons]
  refine ⟨hr, ⟨hh, hbc⟩, fun a ha b hb => ?_⟩
  rcases List.mem_cons.mp hb with rfl | hb
  · exact fun ht => hw ht a (hm a (.inl ha))
  · exact hc a ha b hb

/-- The records of a stretch of work on one command keep the attempts first. -/
lemma Journaled.attemptsFirst (h : Journaled cfg j events j')
    (ha : stage.advance events = some after) (hk : ∀ e ∈ events, e.requestKey = key)
    (hf : AttemptsFirst j.sends)
    (hw : stage.unsent = true → (∃ e ∈ events, e.eventType.isSendAttempt = true) →
      ∀ b ∈ j.sends, b.requestKey ≠ key) : AttemptsFirst j'.sends := by
  induction h generalizing stage with
  | quiet h => simpa [sends, h.records] using hf
  | @enter j j₁ j' e events h rest ih =>
    simp only [advance, foldlM_cons, bind_eq_bind, bind_eq_some_iff] at ha
    obtain ⟨_, hnext, ha⟩ := ha
    rw [forall_mem_cons] at hk
    cases he : e.isSend with
    | false =>
      have hsame := h.sends_of_not_isSend he
      refine ih ha hk.2 (hsame ▸ hf) fun hu hs => ?_
      rw [hsame]
      obtain ⟨b, hb, ht⟩ := hs
      exact hw (unsent_of_next hnext hu) ⟨b, mem_cons_of_mem _ hb, ht⟩
    | true =>
      have hv : isSendEvidence e.eventType = true := by
        simp only [OmsJournalEvent.isSend, Bool.and_eq_true] at he
        exact he.2
      obtain ⟨-, hst, haf⟩ := Stage.next_send hnext hv
      refine ih ha hk.2 (h.attemptsFirst he hf fun ht => ?_) ?_
      · rw [hk.1]
        exact hw (hst ht) ⟨e, mem_cons_self, ht⟩
      · simp [haf]

end OmsJournal

/-! ### The budget of a running service -/

/-- The request map and the index of send attempts know the sends of the journal. -/
def System.sendsKnown (s : System) : Prop :=
  ∀ e ∈ s.journal.sends, (s.requests.lookup e.requestKey).isSome = true ∧
    (e.eventType.isSendAttempt = true → e.sendAttempt ∈ s.placeSendAttempts)

/-- What the memory knows of the sends: everything, unless the process takes no more placements. -/
structure Budgeted (s : System) : Prop where
  first : AttemptsFirst s.journal.sends
  known : s.journal.writePoisoned = true ∨ Dead s ∨ s.sendsKnown

/-- The budget does not notice what leaves the sends and the index alone. -/
lemma Budgeted.of_same (h : Budgeted s) (hs : s'.journal.sends = s.journal.sends)
    (hi : s'.sendIndex = s.sendIndex)
    (hp : s.journal.writePoisoned = true → s'.journal.writePoisoned = true)
    (hd : Dead s → Dead s')
    (hr : ∀ key, (s.requests.lookup key).isSome = true →
      (s'.requests.lookup key).isSome = true) : Budgeted s' := by
  have ha : s'.placeSendAttempts = s.placeSendAttempts := congrArg Prod.snd hi
  refine ⟨hs ▸ h.first, h.known.imp hp (Or.imp hd fun hk e he => ?_)⟩
  rw [ha]
  exact ⟨hr _ (hk e (hs ▸ he)).1, (hk e (hs ▸ he)).2⟩

variable {key : String} {base record : RequestRecord} {start : RequestRecord → Prop} {stage : Stage}
  {events : List OmsJournalEvent}

lemma Writes.budgeted (hw : Writes S A key base start stage s events record s')
    (hi : Indexes key s events s') (hy : base.context.requestKey = key)
    (hf : AttemptsFirst s.journal.sends)
    (hkn : s.journal.writePoisoned = true ∨ Dead s' ∨ s.sendsKnown)
    (hnw : stage.unsent = true → s.mutationBlocked = false → s.journal.writePoisoned ≠ true →
      ∀ b ∈ s.journal.sends, b.requestKey ≠ key) : Budgeted s' := by
  have hk : ∀ e ∈ events, e.requestKey = key := fun e he =>
    (hw.belongs e he).requestKey.trans hy
  obtain ⟨_, hd, -⟩ := hw.advances
  have hm : ∀ e ∈ s'.journal.sends, e ∈ events ∨ e ∈ s.journal.sends := by
    intro e he
    rw [mem_sends] at he ⊢
    exact (hw.journaled.mem_records.mp he.1).imp_right fun ho => ⟨ho, he.2⟩
  constructor
  · refine hw.journaled.attemptsFirst hd hk hf fun hu hs => ?_
    -- attempts are recorded only while admission is open and the writer sound
    obtain ⟨e, he, ha⟩ := hs
    refine hnw hu (hi.admitted e he ha) fun hp => ?_
    simp [(hw.poisoned hp).1] at he
  · by_cases hps' : s'.journal.writePoisoned = true
    · exact .inl hps'
    have hps : s.journal.writePoisoned ≠ true := fun hp => hps' (hw.poisoned hp).2
    refine .inr ((hkn.resolve_left hps).imp_right fun h e he => ?_)
    rw [hw.requests]
    rcases hm e he with he | he
    · rw [hk e he]
      exact ⟨by simp, hi.attempts.resolve_left hps' e he⟩
    · exact ⟨isSome_lookup_insert (h e he).1, fun ha => hi.kept ((h e he).2 ha)⟩

lemma isSend_of_isCommand (h : e.eventType.isCommand = false) : e.isSend = false := by
  simp [OmsJournalEvent.isSend, isCommand_of_eventType h]

lemma Budgeted.of_recovered (hf : AttemptsFirst s'.journal.sends)
    (hy : s'.toCoordinator = Coordinator.recovered s'.journal.records) : Budgeted s' := by
  have hi : s'.sendIndex = (Coordinator.replay s'.journal.records).sendIndex :=
    (congrArg Coordinator.sendIndex hy).trans (sendIndex_recovered _)
  refine ⟨hf, .inr (.inr fun e he => ?_)⟩
  obtain ⟨hm, hs⟩ := mem_sends.mp he
  refine ⟨?_, fun ha => ?_⟩
  · simp only [OmsJournalEvent.isSend, Bool.and_eq_true] at hs
    rw [hy, requests_recovered]
    exact isSome_lookup_replay hm hs.1
  · rw [show s'.placeSendAttempts = _ from congrArg Prod.snd hi]
    exact mem_placeSendAttempts_replay hf hm hs ha

lemma Dead.blocked_ne (h : Dead s) : s.mutationBlocked ≠ false := by simp [h.blocked]

lemma Move.budgeted (hc : Coherent S s) (h : Budgeted s) (hm : Move S A s s') : Budgeted s' := by
  have hfr : ∀ {key : String}, s.requests.lookup key = none → s.mutationBlocked = false →
      s.journal.writePoisoned ≠ true → ∀ b ∈ s.journal.sends, b.requestKey ≠ key := by
    rintro key hnn ho hp b hb rfl
    simpa [hnn] using (h.known.resolve_left hp).resolve_left (fun hd => hd.blocked_ne ho) b hb
  cases hm with
  | opened fresh identified cl =>
    obtain ⟨events, record, hw, -, -, hbs, hf, hi⟩ := cl
    have hd : Dead s → Dead s' := fun hd => hd.of_blocks (fun _ h => h) hbs hf
    exact hw.budgeted hi rfl h.first (h.known.imp_right (Or.imp_left hd)) fun _ => hfr fresh
  | @dispatched _ dispatch events fresh wellFormed writes attempted durable fl block admitted
      exclusive indexes al =>
    have hk : dispatch.pending.context.requestKey = dispatch.requestKey := by
      rw [dispatch.pending_context, wellFormed.requestKey]
    have hd : Dead s → Dead s' := fun hd => by
      have hrs := (admitted hd.blocked).1
      have hl := hd.not_clearable
      simp [isClearable, hrs] at hl
    exact writes.budgeted indexes hk h.first (h.known.imp_right (Or.imp_left hd))
      fun _ => hfr fresh
  | @returned _ dispatch waiting cl =>
    obtain ⟨_, record, hw, -, -, -, hf, hi⟩ := cl
    have hk : dispatch.pending.context.requestKey = dispatch.requestKey := by
      rw [dispatch.pending_context, (hc.pending dispatch waiting).2.requestKey]
    have hu : ¬ Dead s := fun hd => by
      rw [hd.idle] at waiting
      simp at waiting
    exact hw.budgeted hi hk h.first (h.known.imp_right fun h => .inr (h.resolve_left hu))
      (by rintro ⟨⟩)
  | @resolved _ key record known live cl =>
    obtain ⟨_, _, hw, -, -, hbs, hf, hi⟩ :=
      cl (.unresolved record.operation) (by simp [resolvable])
    have hd : Dead s → Dead s' := fun hd => hd.of_blocks (by simp) hbs hf
    exact hw.budgeted hi (hc.keyed key record known).1 h.first
      (h.known.imp_right (Or.imp_left hd)) (by rintro ⟨⟩)
  | @refused e j' reason refused lasting resolution =>
    have hs : e.isSend = false := by
      cases hcm : e.isCommand with
      | false => simp [OmsJournalEvent.isSend, hcm]
      | true =>
        obtain ⟨_, -, -, -, hy⟩ := resolution hcm
        rcases resolvedBy_cases hy with ⟨-, ht⟩ | ⟨-, ht⟩ <;>
          simp [OmsJournalEvent.isSend, ht, isSendEvidence]
    refine h.of_same ?_ rfl (fun hp => ?_) (fun hd => ⟨rfl, lasting, hd.idle⟩) (fun _ h => h)
    · rcases refused.spoils with hq | ⟨hen, -⟩
      · exact congrArg (List.filter OmsJournalEvent.isSend) hq.records
      · exact hen.sends_of_not_isSend hs
    · exact refused.poisoned hp ▸ hp
  | fenced al journaled ord sound fences rqs ows fl bks ix psn =>
    refine h.of_same (journaled.sends_of_not_isSend fun e he =>
      isSend_of_isCommand (isCommand_of_isFence (fences e he).isFence)) ix psn
      (fun hd => hd.of_blocks (fun _ h => h) bks fl) fun key hk => ?_
    rw [rqs]
    exact hk
  | @ended e j' orderId appended eventType =>
    exact h.of_same
      (appended.enters.sends_of_not_isSend (isSend_of_isCommand (by rw [eventType]; rfl))) rfl
      (fun hp => absurd hp (by simp [appended.sound]))
      (fun hd => ⟨hd.blocked, hd.lasting, hd.idle⟩) (fun _ h => h)
  | @lifted e j' al appended eventType blocked reason =>
    refine h.of_same
      (appended.enters.sends_of_not_isSend (isSend_of_isCommand (by rw [eventType]; rfl))) rfl
      (fun hp => absurd hp (by simp [appended.sound])) (fun hd => ?_) fun key hk => ?_
    · have hl := hd.not_clearable
      simp [isClearable, reason] at hl
    · change ((s.requests.mapValues resolveProjection).lookup key).isSome = true
      rw [UMap.lookup_mapValues, isSome_map]
      exact hk
  | forgot | preflight =>
    exact h.of_same rfl rfl (fun h => h) (fun hd => ⟨hd.blocked, hd.lasting, hd.idle⟩)
      (fun _ h => h)
  | reconnecting free =>
    exact h.of_same rfl rfl (fun h => h) (fun hd => absurd free hd.blocked_ne) (fun _ h => h)
  | reconnected blocked reason | released blocked reason =>
    refine h.of_same rfl rfl (fun h => h) (fun hd => ?_) (fun _ h => h)
    have hl := hd.not_clearable
    simp [isClearable, reason] at hl
  | flushed quiet ord sound psn =>
    exact h.of_same (congrArg (List.filter OmsJournalEvent.isSend) quiet.records) rfl psn
      (fun hd => ⟨hd.blocked, hd.lasting, hd.idle⟩) (fun _ h => h)
  | recovered source synced ord sound mem =>
    refine .of_recovered (h.first.sublist ?_) mem
    rcases source with ⟨hr, -⟩ | hr <;> rw [OmsJournal.sends, hr]
    · exact List.Sublist.refl _
    · exact (synced_sublist_records s.journal).filter _
  | unrecovered fault source ord lasting mem fl =>
    have hd : Dead s' := by
      refine ⟨?_, ?_, congrArg FlightView.dispatches fl⟩ <;> rw [mem]
      · rfl
      · exact lasting
    refine ⟨h.first.sublist ?_, .inr (.inl hd)⟩
    rcases source with ⟨hq, -⟩ | hq <;> rw [OmsJournal.sends, hq.records]
    · exact List.Sublist.refl _
    · rw [afterCrash_records]
      exact (synced_sublist_records s.journal).filter _

lemma Moves.budgeted (hc : Coherent S s) (h : Budgeted s) (hm : Moves S A s s') : Budgeted s' := by
  induction hm with
  | refl => exact h
  | tail hm hv ih => exact hv.budgeted (Moves.coherent hc hm) ih

/-- A reset lifts no block behind which the memory does not know the sends of the journal. -/
def System.resetsCounted (s : System) : Call → Prop
  | .act _ => True
  | .resetMutationBlockAfterReconcile =>
    s.mutationBlocked = true → s.mutationBlockReason = paperTerminalHalted ∨
      s.journal.writePoisoned = true ∨ s.sendsKnown

lemma Budgeted.reset (h : Budgeted s)
    (hr : s.resetsCounted .resetMutationBlockAfterReconcile) :
    Budgeted s.resetMutationBlockAfterReconcile := by
  unfold resetMutationBlockAfterReconcile
  split_ifs with ht
  · exact h
  refine ⟨h.first, ?_⟩
  rcases h.known with hp | hd | hk
  · exact .inl hp
  · exact ((hr hd.blocked).resolve_left ht).imp_right .inr
  · exact .inr (.inr hk)

lemma callRun_budgeted {calls : List Call} (h : callsMeet S resetsCounted {} calls) :
    Coherent S (callRun S calls) ∧ Budgeted (callRun S calls) := by
  have hn : ({} : System).journal.sends = [] := rfl
  have ht : Coherent S ({} : System) ∧ Budgeted {} :=
    ⟨coherent_start, by simp [hn, AttemptsFirst], .inr (.inr (by simp [sendsKnown, hn]))⟩
  refine calls_induction (P := fun s => Coherent S s ∧ Budgeted s) (fun s call hs hc => ?_) ht h
  cases call with
  | act a =>
    have hm := step_moves hs.1 (.inl trivial) (permits_unrestricted s a)
    exact ⟨Moves.coherent hs.1 hm, Moves.budgeted hs.1 hs.2 hm⟩
  | resetMutationBlockAfterReconcile => exact ⟨hs.1.reset, hs.2.reset hc⟩

/-! ### Placements within their limit -/

/-- The commands with a send attempt among the records that counts against a budget. -/
def sentCommands (records : List OmsJournalEvent) (account executionDomain : String)
    (cutoffMs : Int) : Finset (String × String × String) :=
  ((records.filter fun e => e.isSend && e.eventType.isSendAttempt && e.account = account &&
      e.executionDomain = executionDomain && cutoffMs < e.tsMs).map
    fun e => (e.agentId, e.traceId, e.commandId)).toFinset

lemma mem_sentCommands {records : List OmsJournalEvent} {account dom : String}
    {cut : Int} {identity : String × String × String} :
    identity ∈ sentCommands records account dom cut ↔
      ∃ e ∈ records, (e.isSend = true ∧ e.eventType.isSendAttempt = true ∧ e.account = account ∧
        e.executionDomain = dom ∧ cut < e.tsMs) ∧
        (e.agentId, e.traceId, e.commandId) = identity := by
  simp [sentCommands, and_assoc]

lemma Budgeted.sentCommands_le (h : Budgeted s) (hp : s.journal.writePoisoned = false)
    (ho : s.mutationBlocked = false) (account dom : String) (cut : Int) :
    (sentCommands s.journal.records account dom cut).card ≤
      (s.placeSendAttemptTimes account dom cut).length := by
  let counted := s.journal.records.filter fun e => e.isSend && e.eventType.isSendAttempt &&
    e.account = account && e.executionDomain = dom && cut < e.tsMs
  have hc : ∀ e ∈ counted, e ∈ s.journal.sends ∧ e.eventType.isSendAttempt = true ∧
      e.account = account ∧ e.executionDomain = dom ∧ cut < e.tsMs := by
    intro e he
    simpa [counted, mem_sends, and_assoc] using he
  have hi := (h.known.resolve_left (by simp [hp])).resolve_left fun hd => hd.blocked_ne ho
  -- the attempts have different keys, so no two of them share an entry of the index
  have hnd : (counted.map OmsJournalEvent.sendAttempt).Nodup := by
    have hsb : counted.Sublist s.journal.sends :=
      monotone_filter_right _ fun e he => by
        simp only [Bool.and_eq_true] at he
        exact he.1.1.1.1
    have hk : counted.Pairwise fun a b => a.requestKey ≠ b.requestKey := by
      refine (h.first.sublist hsb).imp_of_mem fun {a b} _ hb hne => ?_
      exact hne (hc b hb).2.1
    rw [List.Nodup, pairwise_map]
    exact hk.imp fun hne heq => hne (congrArg PlaceSendAttempt.requestKey heq)
  have hs : counted.map OmsJournalEvent.sendAttempt ⊆ s.placeSendAttempts.filter
      fun attempt => attempt.account = account ∧ attempt.executionDomain = dom ∧
        cut < attempt.tsMs := by
    intro attempt ha
    obtain ⟨e, he, rfl⟩ := List.mem_map.mp ha
    obtain ⟨hsn, ht, hw⟩ := hc e he
    exact List.mem_filter.mpr ⟨(hi e hsn).2 ht, decide_eq_true hw⟩
  calc (sentCommands s.journal.records account dom cut).card
      ≤ (counted.map fun e => (e.agentId, e.traceId, e.commandId)).length :=
        toFinset_card_le _
    _ = (counted.map OmsJournalEvent.sendAttempt).length := by simp
    _ ≤ (s.placeSendAttempts.filter fun attempt => attempt.account = account ∧
          attempt.executionDomain = dom ∧ cut < attempt.tsMs).length :=
        (hnd.subperm hs).length_le
    _ = (s.placeSendAttemptTimes account dom cut).length := by
        simp [Coordinator.placeSendAttemptTimes]

section

variable {command : PlaceOrderCommand} {limit : EntrySendAttemptLimit} {replies : PlaceReplies}
  {io : Io}

lemma placeRefusal_limit (h : s.placeRefusal S command (some limit) replies = none) :
    (s.placeSendAttemptTimes command.context.account command.context.executionDomain
      limit.cutoffMs).length < limit.maximumAttempts := by
  have ha := firstRefusal_eq_none.mp h
  simp only [forall_mem_cons, ite_eq_right_iff, reduceCtorEq, imp_false] at ha
  obtain ⟨-, -, -, -, -, -, -, -, hl, -⟩ := ha
  simpa using hl

lemma venueCalls_preVenuePlace {d : PlaceOrderDispatchContext} {reply : CheckReply}
    {rj : System × ExecutionCommandResult} (h : s.preVenuePlace S command d reply io = some rj) :
    rj.1.venueCalls = s.venueCalls := by
  unfold preVenuePlace appendOrBlock reject at h
  grind [System.setJournal, System.block, System.putRecord]

lemma placeOrder_called {limit : Option EntrySendAttemptLimit} {call : VenueCall}
    (h : (s.placeOrder S command limit replies io).1.venueCalls = call :: s.venueCalls) :
    s.placeRefusal S command limit replies = none ∧ call.dispatch.context = command.context ∧
      s.journal.appendDurablePair S.config
        (placeOpening command (placeDispatch S command (io.clock 1)) io).1
        (placeOpening command (placeDispatch S command (io.clock 1)) io).2
        (io.file 0) (io.file 1) = (.committed, (s.placeOrder S command limit replies io).1.journal) ∧
      call.syncedBefore = (s.placeOrder S command limit replies io).1.journal.synced := by
  cases hr : s.placeRefusal S command limit replies with
  | some => simp [placeOrder, hr] at h
  | none =>
    rcases hp : s.journal.appendDurablePair S.config
      (placeOpening command (placeDispatch S command (io.clock 1)) io).1
      (placeOpening command (placeDispatch S command (io.clock 1)) io).2 (io.file 0) (io.file 1)
      with ⟨result, j'⟩
    have hp' := hp
    simp only [placeOpening] at hp'
    cases result with
    | firstFailed | secondFailed =>
      simp only [placeOrder, hr, hp', reject] at h
      split_ifs at h <;> simp [System.block, System.setJournal, System.putRecord] at h
    | committed =>
      simp only [placeOrder, hr, hp', dispatchPlace] at h ⊢
      have ht : ∀ (s : System) (attempt : PlaceSendAttempt),
          (s.trackSendAttempt attempt).venueCalls = s.venueCalls ∧
            (s.trackSendAttempt attempt).journal = s.journal := fun s attempt =>
        ⟨congrArg (fun view => view.flight.venueCalls) (view_trackSendAttempt s attempt),
          congrArg View.journal (view_trackSendAttempt s attempt)⟩
      split at h <;> rename_i hpr
      · rw [venueCalls_preVenuePlace hpr, (ht _ _).1] at h
        simp [System.setJournal, System.putRecord] at h
      · simp only [beginRiskMutationDispatch_place, callVenue, reserve, (ht _ _).1,
          (ht _ _).2] at h ⊢
        obtain ⟨rfl, -⟩ := List.cons_eq_cons.mp h
        exact ⟨trivial, rfl, rfl, rfl⟩

end

/-- Whenever a placement with a limit reaches the venue, fewer other commands of its account and
domain than the limit allows have a synced send attempt after the cutoff, if no reset has lifted a
block behind which the sends of the journal were not known. -/
theorem sendAttempts_below_limit (S : Service) (calls : List Call)
    (hresets : callsMeet S resetsCounted {} calls) (command : PlaceOrderCommand)
    (limit : EntrySendAttemptLimit) (replies : PlaceReplies) (io : Io) (call : VenueCall)
    (hcall : (callRun S (calls ++ [.act (.placeOrder command (some limit) replies io)])).venueCalls =
      call :: (callRun S calls).venueCalls) :
    ((sentCommands call.syncedBefore command.context.account command.context.executionDomain
        limit.cutoffMs).erase
      (command.context.agentId, command.context.sessionId, command.context.toolCallId)).card <
      limit.maximumAttempts := by
  obtain ⟨hc, h⟩ := callRun_budgeted hresets
  have hplaced : ((callRun S calls).placeOrder S command (some limit) replies io).1.venueCalls =
      call :: (callRun S calls).venueCalls := by
    rwa [callRun, foldl_append] at hcall
  obtain ⟨hr, -, hp, hs⟩ := placeOrder_called hplaced
  obtain ⟨hd, -, hop, -⟩ := placeRefusal_none hr
  rcases appendDurablePair_cases (S := S) (A := unrestricted) hc.ordered (.inl trivial)
    (.inl trivial)
    (show (placeOpening command (placeDispatch S command (io.clock 1)) io).1.eventType =
      .orderIntent from rfl)
    (show (placeOpening command (placeDispatch S command (io.clock 1)) io).2.eventType =
      .placeSendAttempt from rfl)
    with ⟨j₁, j', heq, hf, hso, -, hsn, -⟩ | ⟨result, j', heq, hrs, -⟩
  · rw [heq, Prod.mk.injEq] at hp
    rw [← hp.2] at hs
    -- the opening of this command is all that came to the records
    have hb : (sentCommands call.syncedBefore command.context.account
          command.context.executionDomain limit.cutoffMs).erase
        (command.context.agentId, command.context.sessionId, command.context.toolCallId) ⊆
        sentCommands (callRun S calls).journal.records command.context.account
          command.context.executionDomain limit.cutoffMs := by
      intro identity hi
      obtain ⟨hh, hm⟩ := Finset.mem_erase.mp hi
      obtain ⟨e, he, hco, rfl⟩ := mem_sentCommands.mp hm
      rw [hs] at he
      refine mem_sentCommands.mpr ⟨e, ?_, hco, rfl⟩
      rcases hsn.enters.mem_records.mp (synced_subset_records _ he) with rfl | he
      · have ho : (placeOpening command (placeDispatch S command (io.clock 1)) io).2.identity =
            (pendingPlace command (placeDispatch S command (io.clock 1))).identity :=
          (placeEvent_belongs hd rfl).identity
        simp only [OmsJournalEvent.identity, RequestRecord.identity, CommandIdentity.mk.injEq] at ho
        exact absurd (by rw [Prod.mk.injEq, Prod.mk.injEq]; exact ⟨ho.1, ho.2.1, ho.2.2.1⟩)
          hh
      · rcases hf.mem_records.mp he with rfl | he
        · simp [placeOpening, placeEvent, buildEvent, EventType.isSendAttempt] at hco
        · exact he
    calc _ ≤ _ := Finset.card_le_card hb
      _ ≤ _ := h.sentCommands_le hso hop _ _ _
      _ < _ := placeRefusal_limit hr
  · rw [heq, Prod.mk.injEq] at hp
    exact absurd hp.1 hrs

/-- An order is placed, and the process recovers from its journal. -/
def placedAndRecovered (unreadable : Bool) : List Call :=
  [.act (.placeOrder (samplePlacement "p") none {} {}),
    .act (samplePlaced "p" (.returned { disposition := .submitted, orderId := 7 })),
    .act (.recoverFromJournal { replay := { unreadable } }), .resetMutationBlockAfterReconcile]

/-- One more order is placed, with a limit. -/
def placedWithin (unreadable : Bool) (maximumAttempts : Nat) : System :=
  callRun sampleService (placedAndRecovered unreadable ++
    [.act (.placeOrder (samplePlacement "q") (some ⟨-1, maximumAttempts⟩) {} {})])

/-- The venue call of that order. -/
def limitedCall (unreadable : Bool) (maximumAttempts : Nat) : VenueCall :=
  ⟨.place (samplePlacement "q") (placeDispatch sampleService (samplePlacement "q") 0),
    (placedWithin unreadable maximumAttempts).journal.synced⟩

/-- After a recovery the order before it is counted. -/
theorem sendAttempts_counted_after_recovery :
    ((sentCommands (limitedCall false 2).syncedBefore (samplePlacement "q").context.account
      (samplePlacement "q").context.executionDomain (-1)).erase
      ((samplePlacement "q").context.agentId, (samplePlacement "q").context.sessionId,
        (samplePlacement "q").context.toolCallId)).card < 2 :=
  sendAttempts_below_limit sampleService (placedAndRecovered false)
    ⟨trivial, trivial, trivial, fun h => absurd h (by decide +kernel), trivial⟩ (samplePlacement "q") ⟨-1, 2⟩ {} {}
    (limitedCall false 2) (by decide +kernel)

/-- A recovery that fails has forgotten the sends, and a reset lifts its block: the order goes to
the venue though its budget is used up. -/
theorem reset_forgets_sends :
    (placedWithin true 1).venueCalls =
        limitedCall true 1 :: (callRun sampleService (placedAndRecovered true)).venueCalls ∧
      ((sentCommands (limitedCall true 1).syncedBefore
        (samplePlacement "q").context.account (samplePlacement "q").context.executionDomain
        (-1)).erase ((samplePlacement "q").context.agentId, (samplePlacement "q").context.sessionId,
          (samplePlacement "q").context.toolCallId)).card = 1 := by
  decide +kernel

end Hepta
