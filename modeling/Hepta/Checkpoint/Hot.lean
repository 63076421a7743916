import Hepta.Checkpoint.Project
import Hepta.Moves.Records

/-!
# The records that the hot replay keeps

Each table of the projection is a fold of its own over the sealed records. The hot replay keeps the
last receipt of every active order, the last fence of every owner that no release followed, the last
recovery-only record of every owner, the first fence of every account, the last terminal fence, the
last failed projection without a resolution, and the records of every command whose outcome is open.
-/

namespace Hepta.Checkpoint

open List

variable {events : List OmsJournalEvent} {event : OmsJournalEvent} {p p' : Projection}

/-! ### Identities -/

lemma agentId_of_ne {source : String} (h : agentIdFromSource source ≠ "") :
    agentId source = agentIdFromSource source := by
  unfold agentIdFromSource at h ⊢
  split_ifs at h ⊢ with ht
  · exact if_pos ht
  · exact absurd rfl h

lemma agentId_source (h : event.Authored) : agentId event.source = event.agentId := by
  rcases h with ⟨-, ha⟩ | ⟨-, hs⟩
  · exact agentId_of_ne ha
  · rw [OmsJournalEvent.agentId, hs]
    decide

lemma commandKey_eq (h : event.Authored) :
    commandKey event = ⟨event.agentId, event.traceId, event.commandId⟩ := by
  rw [commandKey, agentId_source h]

lemma complete_of_isCommand (h : event.isCommand = true) (hnamed : event.traceId ≠ "") :
    (commandKey event).complete := by
  rw [commandKey_eq (OmsJournalEvent.authored_of_isCommand h)]
  simp only [OmsJournalEvent.isCommand, Bool.and_eq_true, decide_eq_true_eq] at h
  exact ⟨h.2, hnamed, h.1.2⟩

lemma isCommand_of_complete (h : event.Authored) (hc : (commandKey event).complete)
    (ht : event.eventType.isCommand = true) : event.isCommand = true := by
  rw [commandKey_eq h] at hc
  simp [OmsJournalEvent.isCommand, ht, hc.1, hc.2.2]

/-! ### One record more -/

lemma project_append_singleton (events : List OmsJournalEvent) (event : OmsJournalEvent) :
    project (events ++ [event]) = project events >>= fun p => p.step event events.length := by
  simp [project, zipIdx_append, foldlM_append]

lemma project_append_singleton_ok (h : project (events ++ [event]) = .ok p') :
    ∃ p, project events = .ok p ∧ p.step event events.length = .ok p' := by
  rw [project_append_singleton] at h
  cases hp : project events with
  | error => simp [hp, bind, Except.bind] at h
  | ok p => exact ⟨p, rfl, by simpa [hp, bind, Except.bind] using h⟩

/-- What a turn of the loop leaves behind. -/
structure Projection.Stepped (p : Projection) (event : OmsJournalEvent) (index : Nat)
    (p' : Projection) : Prop where
  commands : updateCommand p.commands event (index + 1) = .ok p'.commands
  activeOwnerEvent : p'.activeOwnerEvent = stepOwner p.activeOwnerEvent event index
  fenceEvent : p'.fenceEvent = stepFence p.fenceEvent event index
  recoveryEvent : p'.recoveryEvent = stepRecovery p.recoveryEvent event index
  accountEntryFenceEvent : p'.accountEntryFenceEvent =
    if event.eventType = .accountNewEntryFenced then
      p.accountEntryFenceEvent.setDefault event.account index
    else p.accountEntryFenceEvent
  terminalFenceEvent : p'.terminalFenceEvent =
    if event.eventType = .paperTerminalFence then some index else p.terminalFenceEvent
  projectionFailureEvent : p'.projectionFailureEvent =
    if event.eventType = .executionProjectionFailed then some index
    else if event.eventType = .executionProjectionResolved then none
    else p.projectionFailureEvent
  sendAttempts : p'.sendAttempts = stepSend p.sendAttempts event (index + 1)
  account : event.eventType = .accountNewEntryFenced → event.account ≠ ""

lemma Projection.stepped {ix : Nat} (h : p.step event ix = .ok p') : p.Stepped event ix p' := by
  unfold Projection.step at h
  by_cases ha : event.eventType = .accountNewEntryFenced ∧ event.account = ""
  · rw [if_pos ha] at h
    simp at h
  rw [if_neg ha] at h
  cases hc : updateCommand p.commands event (ix + 1) with
  | error => simp [hc, bind, Except.bind] at h
  | ok =>
    simp only [hc, bind, Except.bind, pure, Except.pure, Except.ok.injEq] at h
    subst h
    exact ⟨hc, rfl, rfl, rfl, rfl, rfl, rfl, rfl, fun ht he => ha ⟨ht, he⟩⟩

/-- A relation between the records and their projection that every turn of the loop keeps. -/
lemma project_induction {motive : List OmsJournalEvent → Projection → Prop} (start : motive [] {})
    (step : ∀ {events event p p'}, motive events p → p.Stepped event events.length p' →
      motive (events ++ [event]) p') (h : project events = .ok p) : motive events p := by
  induction events using reverseRecOn generalizing p with
  | nil =>
    obtain rfl : ({} : Projection) = p := Except.ok.inj h
    exact start
  | append_singleton events event ih =>
    obtain ⟨_, hb, hs⟩ := project_append_singleton_ok h
    exact step (ih hb) (Projection.stepped hs)

lemma exists_project {φ : Projection → Bool} (h : (project events).toOption.any φ = true) :
    ∃ p, project events = .ok p ∧ φ p = true := by
  cases hp : project events with
  | error => simp [hp, Except.toOption] at h
  | ok p => exact ⟨p, rfl, by simpa [hp, Except.toOption] using h⟩

/-! ### The tables -/

/-- What a record does to the entry of an order: a receipt sets it, the end of the order takes it
off. -/
def ownerMark (orderId : Int) (event : OmsJournalEvent) : Option Bool :=
  if event.orderId = orderId ∧ 0 ≤ event.orderId then
    if Projection.isReceipt event.eventType ∧ agentId event.source ≠ "" then some true
    else if event.eventType = .orderOwnerReconciledTerminal then some false
    else none
  else none

def fenceMark (owner : String × String) (event : OmsJournalEvent) : Option Bool :=
  if namesOwner event ∧ sessionOwner event = owner then
    match event.eventType with
    | .sessionOwnerFenced       => some true
    | .sessionOwnerFenceRelease => some false
    | _                         => none
  else none

def recoveryMark (owner : String × String) (event : OmsJournalEvent) : Option Bool :=
  if namesOwner event ∧ sessionOwner event = owner ∧
      event.eventType = .sessionOwnerRecoveryOnly then some true
  else none

def terminalMark (event : OmsJournalEvent) : Option Bool :=
  if event.eventType = .paperTerminalFence then some true else none

def failureMark (event : OmsJournalEvent) : Option Bool :=
  match event.eventType with
  | .executionProjectionFailed   => some true
  | .executionProjectionResolved => some false
  | _                            => none

variable (h : project events = .ok p)

include h

lemma lookup_activeOwnerEvent (orderId : Int) :
    p.activeOwnerEvent.lookup orderId = events.lastMark (ownerMark orderId) := by
  refine project_induction (motive := fun events p =>
    p.activeOwnerEvent.lookup orderId = events.lastMark (ownerMark orderId)) rfl ?_ h
  intro events event p p' ih hs
  rw [hs.activeOwnerEvent, lastMark_append_singleton, ← ih]
  unfold Projection.stepOwner ownerMark
  by_cases ho : event.orderId = orderId
  · subst ho
    split_ifs <;> simp_all
  · split_ifs <;> simp_all [Ne.symm ho]

lemma lookup_fenceEvent (owner : String × String) :
    p.fenceEvent.lookup owner = events.lastMark (fenceMark owner) := by
  refine project_induction (motive := fun events p =>
    p.fenceEvent.lookup owner = events.lastMark (fenceMark owner)) rfl ?_ h
  intro events event p p' ih hs
  rw [hs.fenceEvent, lastMark_append_singleton, ← ih]
  unfold Projection.stepFence fenceMark
  by_cases howner : sessionOwner event = owner
  · subst howner
    by_cases hm : namesOwner event <;> cases event.eventType <;> simp [hm]
  · by_cases hm : namesOwner event <;> cases event.eventType <;>
      simp [hm, howner, Ne.symm howner]

lemma lookup_recoveryEvent (owner : String × String) :
    p.recoveryEvent.lookup owner = events.lastMark (recoveryMark owner) := by
  refine project_induction (motive := fun events p =>
    p.recoveryEvent.lookup owner = events.lastMark (recoveryMark owner)) rfl ?_ h
  intro events event p p' ih hs
  rw [hs.recoveryEvent, lastMark_append_singleton, ← ih]
  unfold Projection.stepRecovery recoveryMark
  by_cases ho : sessionOwner event = owner
  · subst ho
    split_ifs <;> simp_all
  · split_ifs <;> simp_all [Ne.symm ho]

lemma terminalFenceEvent_eq : p.terminalFenceEvent = events.lastMark terminalMark := by
  refine project_induction (motive := fun events p =>
    p.terminalFenceEvent = events.lastMark terminalMark) rfl ?_ h
  intro events event p p' ih hs
  rw [hs.terminalFenceEvent, lastMark_append_singleton, ← ih]
  unfold terminalMark
  split_ifs <;> rfl

lemma projectionFailureEvent_eq : p.projectionFailureEvent = events.lastMark failureMark := by
  refine project_induction (motive := fun events p =>
    p.projectionFailureEvent = events.lastMark failureMark) rfl ?_ h
  intro events event p p' ih hs
  rw [hs.projectionFailureEvent, lastMark_append_singleton, ← ih]
  unfold failureMark
  cases event.eventType <;> simp

def fencesAccount (account : String) (event : OmsJournalEvent) : Bool :=
  event.eventType = .accountNewEntryFenced && event.account = account

lemma lookup_accountEntryFenceEvent (account : String) :
    p.accountEntryFenceEvent.lookup account = events.findIdx? (fencesAccount account) := by
  refine project_induction (motive := fun events p =>
    p.accountEntryFenceEvent.lookup account = events.findIdx? (fencesAccount account)) rfl ?_ h
  intro events event p p' ih hs
  rw [hs.accountEntryFenceEvent, findIdx?_append, ← ih]
  unfold fencesAccount
  by_cases ht : event.eventType = .accountNewEntryFenced
  · rw [if_pos ht, Dict.lookup_setDefault]
    by_cases ha : account = event.account
    · subst ha
      cases p.accountEntryFenceEvent.lookup event.account <;> simp [ht]
    · cases p.accountEntryFenceEvent.lookup account <;> simp [ha, Ne.symm ha]
  · simp [ht]

/-! ### The rows -/

omit h

variable (key : CommandKey)

def rowStep (row : Option CommandRow) (entry : OmsJournalEvent × Nat) :
    Option CommandRow :=
  if commandKey entry.1 = key ∧ key.complete then
    some ((row.getD { key }).update entry.1 (entry.2 + 1))
  else row

def rowOf (events : List OmsJournalEvent) : Option CommandRow :=
  events.zipIdx.foldl (rowStep key) none

lemma rowOf_append_singleton (events : List OmsJournalEvent)
    (event : OmsJournalEvent) : rowOf key (events ++ [event]) =
      rowStep key (rowOf key events) (event, events.length) := by
  simp [rowOf, zipIdx_append]

/-- A record that the projection takes does not contradict the row. -/
lemma updateCommand_ok {cs commands' : Dict CommandKey CommandRow} {sequence : Nat}
    (h : updateCommand cs event sequence = .ok commands') :
    (¬ (commandKey event).complete ∧ commands' = cs) ∨
      ((commandKey event).complete ∧
        ¬ ((cs.lookup (commandKey event)).getD { key := commandKey event }).hashConflict event ∧
        commands' = cs.insert (commandKey event)
          (((cs.lookup (commandKey event)).getD { key := commandKey event }).update event
            sequence)) := by
  unfold updateCommand at h
  by_cases hc : (commandKey event).complete
  · rw [if_neg (not_not.mpr hc)] at h
    split_ifs at h with hcn
    exact .inr ⟨hc, hcn, (Except.ok.inj h).symm⟩
  · rw [if_pos hc] at h
    exact .inl ⟨hc, (Except.ok.inj h).symm⟩

lemma lookup_commands (h : project events = .ok p) (key : CommandKey) :
    p.commands.lookup key = rowOf key events := by
  refine project_induction (motive := fun events p =>
    p.commands.lookup key = rowOf key events) rfl ?_ h
  intro events event p p' ih hs
  rw [rowOf_append_singleton, ← ih, rowStep]
  rcases updateCommand_ok hs.commands with ⟨hc, heq⟩ | ⟨hc, -, heq⟩ <;> rw [heq]
  · rw [if_neg]
    rintro ⟨rfl, hk⟩
    exact hc hk
  · by_cases hk : commandKey event = key
    · subst hk
      rw [if_pos ⟨rfl, hc⟩, AList.lookup_insert]
    · rw [if_neg (fun hk' => hk hk'.1), AList.lookup_insert_ne (Ne.symm hk)]

/-- The record shows that the command was sent. -/
def sends (event : OmsJournalEvent) : Bool :=
  commandKey event = key ∧ key.complete ∧ Projection.isSend event.eventType

/-- The row of a record in the index of send attempts. -/
def sendRow (entry : OmsJournalEvent × Nat) : SendRow :=
  ⟨entry.1.account, entry.1.executionDomain, entry.1.tsMs, commandKey entry.1, entry.2 + 1⟩

/-- The row of the first record that shows that the command was sent. -/
def firstSend (events : List OmsJournalEvent) : Option SendRow :=
  (events.zipIdx.find? fun entry => sends key entry.1).map sendRow

lemma lookup_sendAttempts (h : project events = .ok p) (key : CommandKey) :
    p.sendAttempts.lookup key = firstSend key events := by
  refine project_induction (motive := fun events p =>
    p.sendAttempts.lookup key = firstSend key events) rfl ?_ h
  intro events event p p' ih hst
  have ha : firstSend key (events ++ [event]) = (firstSend key events).or
      (if sends key event = true then some (sendRow (event, events.length)) else none) := by
    by_cases hs : sends key event = true <;>
      simp [firstSend, zipIdx_append, find?_append, hs]
  rw [hst.sendAttempts, ha, ← ih]
  unfold Projection.stepSend
  by_cases hs : (commandKey event).complete ∧ Projection.isSend event.eventType = true
  · rw [if_pos hs, Dict.lookup_setDefault]
    by_cases hk : key = commandKey event
    · subst hk
      cases p.sendAttempts.lookup (commandKey event) <;> simp [sends, hs, sendRow]
    · simp [sends, hk, Ne.symm hk]
  · rw [if_neg hs]
    have ht : sends key event = false := by
      rw [Bool.eq_false_iff]
      simp only [sends, ne_eq, decide_eq_true_eq]
      rintro ⟨rfl, hk, hsn⟩
      exact hs ⟨hk, hsn⟩
    simp [ht]

/-! ### The records that are kept -/

/-- The status that the records of the command leave, one after the other. -/
def lastStatus (events : List OmsJournalEvent) : RowStatus :=
  (events.filter (commandKey · = key)).foldl (fun status event => statusOf event status) .unknown

/-- The outcome of the command is open after the records. -/
def uncertain (events : List OmsJournalEvent) : Prop :=
  key.complete ∧ lastStatus key events = .uncertain

lemma status_rowOf (events : List OmsJournalEvent) :
    ((rowOf key events).getD { key }).status =
      if key.complete then lastStatus key events else .unknown := by
  induction events using reverseRecOn with
  | nil => simp [rowOf, lastStatus]
  | append_singleton events event ih =>
    rw [rowOf_append_singleton, rowStep]
    by_cases hc : key.complete
    · rw [if_pos hc] at ih ⊢
      by_cases hk : commandKey event = key
      · simp [hk, hc, CommandRow.update, ih, lastStatus]
      · simp [hk, ih, lastStatus]
    · simpa [hc] using ih

lemma uncertain_iff : uncertain key events ↔
    ((rowOf key events).getD { key }).status = .uncertain := by
  rw [status_rowOf, uncertain]
  split_ifs with hc <;> simp [hc]

/-- The reasons for which the hot replay keeps a record, between those before and after it. -/
inductive Kept (front : List OmsJournalEvent) (event : OmsJournalEvent)
    (back : List OmsJournalEvent) : Prop
  | owner (orderId : Int) (set : ownerMark orderId event = some true)
      (last : ∀ b ∈ back, ownerMark orderId b = none)
  | fence (owner : String × String) (set : fenceMark owner event = some true)
      (last : ∀ b ∈ back, fenceMark owner b = none)
  | recovery (owner : String × String) (set : recoveryMark owner event = some true)
      (last : ∀ b ∈ back, recoveryMark owner b = none)
  | account (account : String) (set : fencesAccount account event = true)
      (first : ∀ b ∈ front, fencesAccount account b = false)
  | terminal (set : terminalMark event = some true) (last : ∀ b ∈ back, terminalMark b = none)
  | failure (set : failureMark event = some true) (last : ∀ b ∈ back, failureMark b = none)
  | uncertain (uncertain : uncertain (commandKey event) (front ++ event :: back))

lemma lastMark_append_cons {mark : OmsJournalEvent → Option Bool}
    {front back : List OmsJournalEvent} :
    (front ++ event :: back).lastMark mark = some front.length ↔
      mark event = some true ∧ ∀ b ∈ back, mark b = none := by
  rw [lastMark_eq_some_iff]
  constructor
  · rintro ⟨_, _, _, heq, hl, hm, hs⟩
    obtain ⟨rfl, hc⟩ := append_inj heq hl.symm
    obtain ⟨rfl, rfl⟩ := List.cons.inj hc
    exact ⟨hm, hs⟩
  · rintro ⟨hm, hs⟩
    exact ⟨front, event, back, rfl, rfl, hm, hs⟩

theorem selected_iff {front back : List OmsJournalEvent}
    (h : project (front ++ event :: back) = .ok p) :
    p.selected (front ++ event :: back) front.length = true ↔ Kept front event back := by
  have hf : ∀ account, (front ++ event :: back).findIdx? (fencesAccount account) =
      some front.length ↔ fencesAccount account event = true ∧
        ∀ b ∈ front, fencesAccount account b = false := by
    intro account
    rw [findIdx?_eq_some_iff_getElem]
    constructor
    · rintro ⟨hlt, hs, ht⟩
      refine ⟨by simpa using hs, fun b hb => ?_⟩
      obtain ⟨i, hi, rfl⟩ := getElem_of_mem hb
      have := ht i hi
      rw [getElem_append_left hi] at this
      simpa using this
    · rintro ⟨hs, ht⟩
      refine ⟨by simp, by simpa using hs, fun i hi => ?_⟩
      rw [getElem_append_left hi]
      simp [ht _ (getElem_mem hi)]
  have hu : ∀ key, p.isUncertain key = true ↔ uncertain key (front ++ event :: back) := by
    intro key
    rw [Projection.isUncertain, lookup_commands h, uncertain_iff]
    cases rowOf key (front ++ event :: back) <;> simp
  simp only [Projection.selected, Bool.or_eq_true, contains_iff_mem, Dict.mem_values,
    decide_eq_true_eq, lookup_activeOwnerEvent h, lookup_fenceEvent h, lookup_recoveryEvent h,
    lookup_accountEntryFenceEvent h, terminalFenceEvent_eq h, projectionFailureEvent_eq h,
    lastMark_append_cons, hf]
  constructor
  · rintro ((((((⟨o, hs, hl⟩ | ⟨o, hs, hl⟩) | ⟨o, hs, hl⟩) | ⟨a, hs, hf⟩) |
      ⟨hs, hl⟩) | ⟨hs, hl⟩) | ho)
    · exact .owner o hs hl
    · exact .fence o hs hl
    · exact .recovery o hs hl
    · exact .account a hs hf
    · exact .terminal hs hl
    · exact .failure hs hl
    · exact .uncertain ((hu _).mp (by simpa using ho))
  · rintro (⟨o, hs, hl⟩ | ⟨o, hs, hl⟩ | ⟨o, hs, hl⟩ | ⟨a, hs, hf⟩ |
      ⟨hs, hl⟩ | ⟨hs, hl⟩ | ho)
    · exact .inl (.inl (.inl (.inl (.inl (.inl ⟨o, hs, hl⟩)))))
    · exact .inl (.inl (.inl (.inl (.inl (.inr ⟨o, hs, hl⟩)))))
    · exact .inl (.inl (.inl (.inl (.inr ⟨o, hs, hl⟩))))
    · exact .inl (.inl (.inl (.inr ⟨a, hs, hf⟩)))
    · exact .inl (.inl (.inr ⟨hs, hl⟩))
    · exact .inl (.inr ⟨hs, hl⟩)
    · exact .inr (by simpa using (hu _).mpr ho)

/-- A record that is kept, with what is kept before and after it. -/
structure KeptAt (front : List OmsJournalEvent) (event : OmsJournalEvent)
    (back kept kept' : List OmsJournalEvent) : Prop where
  self : Kept front event back
  before : ∀ b, b ∈ kept ↔ ∃ f r, front = f ++ b :: r ∧ Kept f b (r ++ event :: back)
  after : ∀ b, b ∈ kept' ↔ ∃ f r, back = f ++ b :: r ∧ Kept (front ++ event :: f) b r

lemma keptAt {front back : List OmsJournalEvent}
    (h : project (front ++ event :: back) = .ok p) (hk : Kept front event back) :
    KeptAt front event back (front.keepFrom (p.selected (front ++ event :: back)) 0)
      (back.keepFrom (p.selected (front ++ event :: back)) (front.length + 1)) := by
  refine ⟨hk, fun b => ?_, fun b => ?_⟩ <;> rw [mem_keepFrom] <;>
    refine exists_congr fun f => exists_congr fun r => and_congr_right fun hl => ?_ <;> subst hl
  · have heq : (f ++ b :: r) ++ event :: back = f ++ b :: (r ++ event :: back) := by simp
    rw [heq] at h ⊢
    rw [zero_add]
    exact selected_iff h
  · have heq : front ++ event :: (f ++ b :: r) = (front ++ event :: f) ++ b :: r := by simp
    have hi : front.length + 1 + f.length = (front ++ event :: f).length := by
      simp only [length_append, length_cons]
      omega
    rw [heq] at h ⊢
    rw [hi]
    exact selected_iff h

lemma hotReplay_sublist (events : List OmsJournalEvent) (p : Projection) :
    (hotReplay events p).Sublist events := keepFrom_sublist events

/-- A record that is kept stands between what is kept before and after it. -/
lemma hotReplay_of_kept {front back : List OmsJournalEvent}
    (h : project (front ++ event :: back) = .ok p) (hk : Kept front event back) :
    ∃ kept kept', KeptAt front event back kept kept' ∧
      hotReplay (front ++ event :: back) p = kept ++ event :: kept' := by
  refine ⟨_, _, keptAt h hk, ?_⟩
  rw [hotReplay, keepFrom_append, keepFrom_cons, zero_add,
    if_pos ((selected_iff h).mpr hk), singleton_append]

lemma exists_keptAt {kept kept' : List OmsJournalEvent} (h : project events = .ok p)
    (hh : hotReplay events p = kept ++ event :: kept') :
    ∃ front back, events = front ++ event :: back ∧ KeptAt front event back kept kept' := by
  obtain ⟨front, back, rfl, hs, rfl, rfl⟩ := keepFrom_eq_append_cons hh
  rw [zero_add] at hs ⊢
  exact ⟨front, back, rfl, keptAt h ((selected_iff h).mp hs)⟩

lemma mem_hotReplay (h : project events = .ok p) : event ∈ hotReplay events p ↔
    ∃ front back, events = front ++ event :: back ∧ Kept front event back := by
  constructor
  · intro hm
    obtain ⟨kept, kept', hh⟩ := append_of_mem hm
    obtain ⟨front, back, heq, hk⟩ := exists_keptAt h hh
    exact ⟨front, back, heq, hk.self⟩
  · rintro ⟨front, back, rfl, hk⟩
    obtain ⟨kept, kept', -, heq⟩ := hotReplay_of_kept h hk
    simp [heq]

/-- The first record with a property among those that are kept. -/
lemma find?_hotReplay_eq_some {q : OmsJournalEvent → Bool} (h : project events = .ok p) :
    (hotReplay events p).find? q = some event ↔ ∃ front back, events = front ++ event :: back ∧
      q event = true ∧ Kept front event back ∧
      ∀ f b r, front = f ++ b :: r → Kept f b (r ++ event :: back) → q b = false := by
  rw [find?_eq_some_iff_append]
  constructor
  · rintro ⟨hq, kept, kept', hh, hb⟩
    obtain ⟨front, back, heq, hk⟩ := exists_keptAt h hh
    refine ⟨front, back, heq, hq, hk.self, fun f b r hf hs => ?_⟩
    simpa using hb b ((hk.before b).mpr ⟨f, r, hf, hs⟩)
  · rintro ⟨front, back, rfl, hq, hk, hb⟩
    obtain ⟨kept, kept', hs, heq⟩ := hotReplay_of_kept h hk
    refine ⟨hq, kept, kept', heq, fun b hm => ?_⟩
    obtain ⟨f, r, hf, hk⟩ := (hs.before b).mp hm
    simp [hb f b r hf hk]

lemma find?_hotReplay_eq_none {q : OmsJournalEvent → Bool} (h : project events = .ok p) :
    (hotReplay events p).find? q = none ↔
      ∀ front b back, events = front ++ b :: back → Kept front b back → q b = false := by
  simp only [find?_eq_none, mem_hotReplay h, Bool.not_eq_true]
  constructor
  · exact fun hn front b back heq hk => hn b ⟨front, back, heq, hk⟩
  · rintro hn b ⟨front, back, heq, hk⟩
    exact hn front b back heq hk

end Hepta.Checkpoint
