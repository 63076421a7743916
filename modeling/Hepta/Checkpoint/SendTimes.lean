import Hepta.Checkpoint.Index

/-!
# The send budget after sealing

The time of a command in the budget of its account and domain is the time of its first send
record. A sealed command keeps it in the send index, unless the hot replay or the tail names the
command as sent again: then the first record found there stands for the command.
-/

namespace Hepta

open Checkpoint Coordinator List

variable {events P T : List OmsJournalEvent} {event : OmsJournalEvent} {p : Projection}
  {key : String}

/-! ### First send records -/

def showsSent (key : String) (event : OmsJournalEvent) : Bool :=
  event.isCommand && isSendEvidence event.eventType && event.requestKey = key

/-- Recovery takes up a command with the first record that shows it as sent. -/
lemma foldl_sendStep (events : List OmsJournalEvent) (key : String) :
    (key ∈ (events.foldl sendStep (∅, [])).1 ↔ (events.find? (showsSent key)).isSome = true) ∧
    (events.foldl sendStep (∅, [])).2.filter (·.requestKey = key) =
      ((events.find? (showsSent key)).map OmsJournalEvent.sendAttempt).toList := by
  induction events using reverseRecOn with
  | nil => simp
  | append_singleton events event ih =>
    rw [foldl_append, foldl_cons, foldl_nil, find?_append]
    generalize events.foldl sendStep (∅, []) = index at ih ⊢
    obtain ⟨hk, hf⟩ := ih
    by_cases hs : event.isCommand = true ∧ isSendEvidence event.eventType = true
    · by_cases heq : event.requestKey = key
      · subst heq
        have hw : showsSent event.requestKey event = true := by simp [showsSent, hs]
        cases ho : events.find? (showsSent event.requestKey) with
        | none => simp_all [sendStep, OmsJournalEvent.sendAttempt]
        | some => simp_all [sendStep]
      · have hw : showsSent key event = false := by simp [showsSent, heq]
        by_cases hm : event.requestKey ∈ index.1 <;>
          simp [sendStep, hs, hm, hw, hk, hf, heq, Ne.symm heq]
    · have hw : showsSent key event = false := by
        rw [Bool.eq_false_iff]
        simp only [showsSent, ne_eq, Bool.and_eq_true, decide_eq_true_eq]
        exact fun h => hs h.1
      simp [sendStep, ← and_assoc, hs, hw, hk, hf]

lemma mem_placeSendAttemptKeys_recovered (events : List OmsJournalEvent) :
    key ∈ (recovered events).placeSendAttemptKeys ↔
      (events.find? (showsSent key)).isSome = true := by
  have h : (recovered events).sendIndex = _ := (sendIndex_recovered events).trans (sendIndex_replay _)
  rw [← (foldl_sendStep events key).1, ← h]
  rfl

lemma filter_placeSendAttempts_recovered (events : List OmsJournalEvent) :
    (recovered events).placeSendAttempts.filter (·.requestKey = key) =
      ((events.find? (showsSent key)).map OmsJournalEvent.sendAttempt).toList := by
  have h : (recovered events).sendIndex = _ := (sendIndex_recovered events).trans (sendIndex_replay _)
  rw [← (foldl_sendStep events key).2, ← h]
  rfl

/-! ### The rows of the send index -/

def Checkpoint.SendRow.attempt (row : SendRow) : PlaceSendAttempt :=
  ⟨requestKey row.key.agentId row.key.sessionId row.key.commandId, row.account,
    row.executionDomain, row.tsMs⟩

/-- The projection and recovery see the same send records. -/
lemma sends_iff {ck : CommandKey} (ha : event.Authored)
    (hnm : event.isCommand = true → event.traceId ≠ "") : sends ck event = true ↔
      event.isCommand = true ∧ isSendEvidence event.eventType = true ∧ commandKey event = ck := by
  have hs : Projection.isSend event.eventType = isSendEvidence event.eventType := by
    cases event.eventType <;> rfl
  have hc : isSendEvidence event.eventType = true → event.eventType.isCommand = true := by
    cases event.eventType <;> simp [isSendEvidence, EventType.isCommand]
  simp only [sends, decide_eq_true_eq, hs]
  constructor
  · rintro ⟨rfl, hm, he⟩
    exact ⟨isCommand_of_complete ha hm (hc he), he, rfl⟩
  · rintro ⟨hi, he, rfl⟩
    exact ⟨rfl, complete_of_isCommand hi (hnm hi), he⟩

lemma firstSend_eq_some {ck : CommandKey} {row : SendRow} (h : firstSend ck events = some row) :
    ∃ e index, events.find? (sends ck) = some e ∧ row = sendRow (e, index) := by
  have hf : (events.zipIdx.find? fun entry => sends ck entry.1).map Prod.fst =
      events.find? (sends ck) := by
    rw [← Function.comp_def, ← find?_map, zipIdx_map_fst]
  obtain ⟨⟨e, index⟩, he, rfl⟩ := Option.map_eq_some_iff.mp h
  exact ⟨e, index, by rw [← hf, he]; rfl, rfl⟩

/-- The first record under a request key is the first one of its command. -/
lemma find?_sends_first {first : OmsJournalEvent}
    (hr : ∀ e ∈ P, e.Authored ∧ (e.isCommand = true → e.traceId ≠ ""))
    (hf : P.find? (showsSent key) = some first) :
    P.find? (sends (commandKey first)) = some first := by
  have hm := hr first (mem_of_find?_eq_some hf)
  obtain ⟨hs, front, back, heq, hb⟩ := find?_eq_some_iff_append.mp hf
  simp only [showsSent, Bool.and_eq_true, decide_eq_true_eq] at hs
  refine find?_eq_some_iff_append.mpr ⟨(sends_iff hm.1 hm.2).mpr ⟨hs.1.1, hs.1.2, rfl⟩,
    front, back, heq, fun b hbm => ?_⟩
  have hbr := hr b (by simp [heq, hbm])
  have hn := hb b hbm
  simp only [showsSent, Bool.not_eq_true', Bool.and_eq_false_imp, Bool.and_eq_true,
    decide_eq_false_iff_not] at hn
  rw [Bool.not_eq_true', Bool.eq_false_iff]
  intro hsb
  obtain ⟨hc, hsb, hk⟩ := (sends_iff hbr.1 hbr.2).mp hsb
  rw [commandKey_eq hbr.1, commandKey_eq hm.1, CommandKey.mk.injEq] at hk
  exact hn ⟨hc, hsb⟩ (by simpa [OmsJournalEvent.requestKey, hk] using hs.2)

section Rows

variable (h : project P = .ok p)
  (hr : ∀ e ∈ P, e.Authored ∧ (e.isCommand = true → e.traceId ≠ ""))

include h hr

lemma lookup_row {ck : CommandKey} {row : SendRow} (hl : p.sendAttempts.lookup ck = some row) :
    ∃ e, P.find? (sends ck) = some e ∧ showsSent e.requestKey e = true ∧ commandKey e = ck ∧
      row.key = ck ∧ row.attempt = e.sendAttempt := by
  rw [lookup_sendAttempts h] at hl
  obtain ⟨e, index, he, rfl⟩ := firstSend_eq_some hl
  obtain ⟨ha, hn⟩ := hr e (mem_of_find?_eq_some he)
  obtain ⟨hc, hs, hk⟩ := (sends_iff ha hn).mp (find?_some he)
  refine ⟨e, he, by simp [showsSent, hc, hs], hk, hk, ?_⟩
  rw [SendRow.attempt, sendRow, commandKey_eq ha]
  rfl

lemma exists_row {e : OmsJournalEvent} (he : e ∈ P) (hs : showsSent key e = true) :
    ∃ row, p.sendAttempts.lookup (commandKey e) = some row ∧ row.attempt.requestKey = key := by
  simp only [showsSent, Bool.and_eq_true, decide_eq_true_eq] at hs
  obtain ⟨⟨hc, hs⟩, rfl⟩ := hs
  have hi : (P.find? (sends (commandKey e))).isSome = true :=
    find?_isSome.mpr ⟨e, he, (sends_iff (hr e he).1 (hr e he).2).mpr ⟨hc, hs, rfl⟩⟩
  cases hl : p.sendAttempts.lookup (commandKey e) with
  | none =>
    rw [lookup_sendAttempts h, firstSend, Option.map_eq_none_iff, find?_eq_none] at hl
    obtain ⟨b, hb, hq⟩ := find?_isSome.mp hi
    obtain ⟨i, hi, rfl⟩ := getElem_of_mem hb
    exact absurd hq (hl (P[i], i) (mem_zipIdx_iff_getElem?.mpr (by simp)))
  | some row =>
    obtain ⟨b, hb, -, hk, -, ha⟩ := lookup_row h hr hl
    refine ⟨row, rfl, ?_⟩
    rw [commandKey_eq (hr b (mem_of_find?_eq_some hb)).1, commandKey_eq (hr e he).1,
      CommandKey.mk.injEq] at hk
    rw [ha]
    simp [OmsJournalEvent.sendAttempt, OmsJournalEvent.requestKey, hk]

/-- The index counts a command once exactly if no other command has its request key. -/
lemma rows_perm_iff {first : OmsJournalEvent} (hf : P.find? (showsSent key) = some first) :
    ((p.sendAttempts.values.map SendRow.attempt).filter (·.requestKey = key)).Perm
      [first.sendAttempt] ↔
    ∀ e ∈ P, showsSent key e = true → commandKey e = commandKey first := by
  have hk : ∀ ck row, p.sendAttempts.lookup ck = some row → row.key = ck := fun ck row hl => by
    obtain ⟨_, -, -, -, hk, -⟩ := lookup_row h hr hl
    exact hk
  have hfm := mem_of_find?_eq_some hf
  have hm : ∀ {ck row}, p.sendAttempts.lookup ck = some row → row.attempt.requestKey = key →
      row ∈ p.sendAttempts.values.filter fun row => row.attempt.requestKey = key :=
    fun hl ha => mem_filter.mpr ⟨Dict.mem_values.mpr ⟨_, hl⟩, by simpa using ha⟩
  obtain ⟨row, hrow, hrk⟩ := exists_row h hr hfm (find?_some hf)
  rw [filter_map]
  constructor
  · intro hp e he hs
    obtain ⟨row', hrow', hrk'⟩ := exists_row h hr he hs
    have hl := hp.length_eq
    rw [length_map, length_singleton] at hl
    obtain ⟨r, hone⟩ := length_eq_one_iff.mp hl
    have heq : row' = r := mem_singleton.mp (hone ▸ hm hrow' hrk')
    have heq' : row = r := mem_singleton.mp (hone ▸ hm hrow hrk)
    rw [← hk _ _ hrow', ← hk _ _ hrow, heq, heq']
  · intro hu
    have hd : (p.sendAttempts.values.filter fun row => row.attempt.requestKey = key).Nodup :=
      (Nodup.of_map _ (Dict.nodup_map_values hk)).filter _
    have hp : (p.sendAttempts.values.filter fun row => row.attempt.requestKey = key).Perm [row] := by
      refine (perm_ext_iff_of_nodup hd (nodup_singleton row)).mpr fun row' => ?_
      rw [mem_singleton]
      refine ⟨fun hrow' => ?_, fun heq => heq ▸ hm hrow hrk⟩
      obtain ⟨hv, ha⟩ := mem_filter.mp hrow'
      obtain ⟨ck, hl⟩ := Dict.mem_values.mp hv
      obtain ⟨e, he, hs, rfl, -, hae⟩ := lookup_row h hr hl
      have hek : e.requestKey = key := by
        rw [decide_eq_true_eq, hae] at ha
        exact ha
      rw [hek] at hs
      rw [hu e (mem_of_find?_eq_some he) hs, hrow] at hl
      exact (Option.some.inj hl).symm
    obtain ⟨e, he, -, -, -, ha⟩ := lookup_row h hr hrow
    rw [find?_sends_first hr hf, Option.some.injEq] at he
    have hpm := hp.map SendRow.attempt
    rw [map_singleton, ha, ← he] at hpm
    exact hpm

lemma rows_eq_nil (hn : P.find? (showsSent key) = none) :
    (p.sendAttempts.values.map SendRow.attempt).filter (·.requestKey = key) = [] := by
  rw [filter_eq_nil_iff]
  intro attempt ha hk
  obtain ⟨row, hv, rfl⟩ := mem_map.mp ha
  obtain ⟨ck, hl⟩ := Dict.mem_values.mp hv
  obtain ⟨e, he, hs, -, -, hae⟩ := lookup_row h hr hl
  rw [decide_eq_true_eq, hae] at hk
  exact find?_eq_none.mp hn e (mem_of_find?_eq_some he) (hk ▸ hs)

end Rows

/-! ### Times -/

/-- The first of the records that are kept before the cut, or else of those behind it, that shows
the command as sent. -/
def SentAgain (key : String) (P T : List OmsJournalEvent) (event : OmsJournalEvent) : Prop :=
  (∃ front back, P = front ++ event :: back ∧ showsSent key event = true ∧ Kept front event back ∧
    ∀ f b r, front = f ++ b :: r → Kept f b (r ++ event :: back) → showsSent key b = false) ∨
  (∀ front b back, P = front ++ b :: back → Kept front b back → showsSent key b = false) ∧
    T.find? (showsSent key) = some event

/-- The record that shows a command as sent again has the account, domain and time of the first
one before the cut; where there is none, no two commands share the request key. -/
def SendsKept (P T : List OmsJournalEvent) : Prop :=
  ∀ key first, P.find? (showsSent key) = some first →
    (∀ e, SentAgain key P T e → e.sendAttempt = first.sendAttempt) ∧
    ((∀ e, ¬ SentAgain key P T e) → ∀ e ∈ P, showsSent key e = true →
      commandKey e = commandKey first)

lemma find?_recovered (h : project P = .ok p) :
    (hotReplay P p ++ T).find? (showsSent key) = some event ↔ SentAgain key P T event := by
  rw [find?_append, Option.or_eq_some_iff, find?_hotReplay_eq_some h, find?_hotReplay_eq_none h]
  rfl

/-- The attempts whose times the coordinator counts after sealing: those of the index, except for
the commands that recovery knows as sent, and those of recovery. -/
def countedAttempts (p : Projection) (c : Coordinator) : List PlaceSendAttempt :=
  ((p.sendAttempts.values.map SendRow.attempt).filter fun attempt =>
    attempt.requestKey ∉ c.placeSendAttemptKeys) ++ c.placeSendAttempts

lemma perm_iff_filter_requestKey {attempts attempts' : List PlaceSendAttempt} :
    attempts.Perm attempts' ↔ ∀ key, (attempts.filter (·.requestKey = key)).Perm
      (attempts'.filter (·.requestKey = key)) := by
  refine ⟨fun h key => h.filter _, fun h => perm_iff_count.mpr fun attempt => ?_⟩
  have hc := (h attempt.requestKey).count_eq attempt
  rwa [count_filter (by simp), count_filter (by simp)] at hc

lemma countedAttempts_perm_iff (h : project P = .ok p)
    (hr : ∀ e ∈ P, e.Authored ∧ (e.isCommand = true → e.traceId ≠ "")) :
    (countedAttempts p ((generation P p).recover T)).Perm (recovered (P ++ T)).placeSendAttempts ↔
      SendsKept P T := by
  rw [perm_iff_filter_requestKey]
  refine forall_congr' fun key => ?_
  have hrec : (generation P p).recover T = recovered (hotReplay P p ++ T) := rfl
  rw [hrec, countedAttempts, filter_append, filter_placeSendAttempts_recovered,
    filter_placeSendAttempts_recovered, filter_filter]
  have hrows : ((p.sendAttempts.values.map SendRow.attempt).filter fun attempt =>
      decide (attempt.requestKey = key) &&
        decide (attempt.requestKey ∉ (recovered (hotReplay P p ++ T)).placeSendAttemptKeys)) =
      if ((hotReplay P p ++ T).find? (showsSent key)).isSome = true then [] else
        (p.sendAttempts.values.map SendRow.attempt).filter (·.requestKey = key) := by
    split_ifs with hs
    · refine filter_eq_nil_iff.mpr fun attempt _ ha => ?_
      simp only [Bool.and_eq_true, decide_eq_true_eq] at ha
      exact ha.2 ((mem_placeSendAttemptKeys_recovered _).mpr (ha.1 ▸ hs))
    · refine filter_congr fun attempt _ => ?_
      by_cases ha : attempt.requestKey = key
      · subst ha
        rw [← mem_placeSendAttemptKeys_recovered] at hs
        simp [hs]
      · simp [ha]
  rw [hrows]
  cases hf : P.find? (showsSent key) with
  | none =>
    have hh : (hotReplay P p).find? (showsSent key) = none :=
      find?_eq_none.mpr fun e he => find?_eq_none.mp hf e ((hotReplay_sublist P p).subset he)
    simp [rows_eq_nil h hr hf, find?_append, hf, hh]
  | some first =>
    have hPT : (P ++ T).find? (showsSent key) = some first := by rw [find?_append, hf, Option.some_or]
    simp only [hPT, Option.map_some, Option.toList_some, Option.some.injEq, forall_eq',
      ← find?_recovered h]
    cases ha : (hotReplay P p ++ T).find? (showsSent key) with
    | none => simpa using rows_perm_iff h hr hf
    | some e => simp

/-- After sealing, every budget sees the times that it saw before if every command that is shown
as sent again has the account, domain and time of its first send record; if one has not, the
attempts that are counted are others. -/
theorem send_times_kept (hwritable : Writable (P ++ T)) (hproject : project P = .ok p)
    (pick : ℕ → ℕ → ℕ) (now : Int) :
    (SendsKept P T → ∀ account executionDomain cutoffMs, ∃ times,
      (generation P p).getPlaceSendAttemptTimes pick ((generation P p).recover T) now account
        executionDomain cutoffMs = (true, times) ∧
      times.Perm ((recovered (P ++ T)).placeSendAttemptTimes account executionDomain cutoffMs)) ∧
    (¬ SendsKept P T → ¬ (countedAttempts p ((generation P p).recover T)).Perm
      (recovered (P ++ T)).placeSendAttempts) := by
  have hc : ∀ e ∈ P, e.Authored ∧ (e.isCommand = true → e.traceId ≠ "") := by
    intro e he
    obtain ⟨hrg, hm⟩ := hwritable.records e (List.mem_append_left _ he)
    exact ⟨hrg.authored, hm⟩
  have hiff := countedAttempts_perm_iff (T := T) hproject hc
  refine ⟨fun hk account executionDomain cutoffMs => ?_, fun hk hp => hk (hiff.mp hp)⟩
  have hs : (sendRows p.sendAttempts).Pairwise fun a b => a.sortKey ≤ b.sortKey :=
    List.pairwise_insertionSort (fun a b : SendRow => a.sortKey ≤ b.sortKey) _
  obtain ⟨rows, hr, hp⟩ := Generation.readPlaceSendAttemptTimes_perm (generation P p) pick
    hs account executionDomain cutoffMs ((generation P p).recover T).placeSendAttemptKeys
  refine ⟨_, by rw [Generation.getPlaceSendAttemptTimes, hr], ?_⟩
  have hrows : (rows.map SendRow.tsMs).Perm ((((p.sendAttempts.values.map SendRow.attempt).filter
      fun attempt => attempt.requestKey ∉ ((generation P p).recover T).placeSendAttemptKeys).filter
        fun attempt => attempt.account = account ∧ attempt.executionDomain = executionDomain ∧
          cutoffMs < attempt.tsMs).map PlaceSendAttempt.tsMs) := by
    rw [filter_filter, filter_map, map_map]
    have hv : (sendRows p.sendAttempts).Perm p.sendAttempts.values :=
      List.perm_insertionSort (fun a b : SendRow => a.sortKey ≤ b.sortKey) _
    refine (hp.trans (hv.filter _)).map _ |>.trans (Perm.of_eq ?_)
    congr 1
    refine filter_congr fun row _ => ?_
    change _ = (decide (row.account = account ∧ row.executionDomain = executionDomain ∧
      cutoffMs < row.tsMs) && decide (requestKey row.key.agentId row.key.sessionId
        row.key.commandId ∉ ((generation P p).recover T).placeSendAttemptKeys))
    rw [Bool.eq_iff_iff]
    simp [and_assoc]
  have hfull := ((hiff.mpr hk).filter fun attempt => attempt.account = account ∧
    attempt.executionDomain = executionDomain ∧ cutoffMs < attempt.tsMs).map PlaceSendAttempt.tsMs
  rw [countedAttempts, filter_append, map_append] at hfull
  exact (hrows.append_right _).trans hfull

/-- A placement whose receipt is written at the given time. -/
def answeredAt (tsMs : Int) : List Call :=
  [.act (.placeOrder (samplePlacement "sent") none {} {}),
    .act (.placeReturned (samplePlacement "sent")
      (System.placeDispatch sampleService (samplePlacement "sent") 0)
      (.returned { disposition := .submitted, orderId := 7 }) {} { clock := fun _ => tsMs })]

def answeredRecords (tsMs : Int) : List OmsJournalEvent := sampleRecords (answeredAt tsMs)

lemma writable_answeredRecords (tsMs : Int) : Writable (answeredRecords tsMs ++ []) := by
  rw [List.append_nil]
  exact writable_sampleRecords _

set_option maxRecDepth 10000 in
/-- A receipt that is written at the time of the attempt leaves the budget alone. -/
theorem send_times_kept_at_once : ∃ p, project (answeredRecords 0) = .ok p ∧
    ∀ account executionDomain cutoffMs, ∃ times,
      (generation (answeredRecords 0) p).getPlaceSendAttemptTimes (fun low high => (low + high) / 2)
        ((generation (answeredRecords 0) p).recover []) 0 account executionDomain cutoffMs =
          (true, times) ∧
      times.Perm ((recovered (answeredRecords 0 ++ [])).placeSendAttemptTimes account
        executionDomain cutoffMs) := by
  have hs : (project (answeredRecords 0)).toOption.any (fun p => decide
      ((countedAttempts p ((generation (answeredRecords 0) p).recover [])).Perm
        (recovered (answeredRecords 0 ++ [])).placeSendAttempts)) = true := by
    decide
  obtain ⟨p, hp, h⟩ := exists_project hs
  have hkept := send_times_kept (writable_answeredRecords 0) hp (fun low high => (low + high) / 2) 0
  exact ⟨p, hp, hkept.1 (not_not.mp fun hn => hkept.2 hn (of_decide_eq_true h))⟩

set_option maxRecDepth 10000 in
/-- The hot replay keeps the receipt of a working order but not the record of its attempt, and the
command counts from the time of the receipt on. -/
theorem send_time_moves_with_receipt : Writable (answeredRecords 10 ++ []) ∧
    ∃ p, project (answeredRecords 10) = .ok p ∧
      (generation (answeredRecords 10) p).getPlaceSendAttemptTimes (fun low high => (low + high) / 2)
        ((generation (answeredRecords 10) p).recover []) 0 "account" "" 5 = (true, [10]) ∧
      (recovered (answeredRecords 10 ++ [])).placeSendAttemptTimes "account" "" 5 = [] := by
  refine ⟨writable_answeredRecords 10, ?_⟩
  have hs : (project (answeredRecords 10)).toOption.any (fun p => decide
      ((generation (answeredRecords 10) p).getPlaceSendAttemptTimes (fun low high => (low + high) / 2)
        ((generation (answeredRecords 10) p).recover []) 0 "account" "" 5 = (true, [10]))) = true := by
    decide
  obtain ⟨p, hp, h⟩ := exists_project hs
  exact ⟨p, hp, of_decide_eq_true h, by decide⟩

end Hepta
