import Hepta.Execution.Fence
import Hepta.Execution.Replay
import Hepta.Execution.TerminalText

/-!
# The records of the fences and their replay

The records that the fence operations write, and what replay makes of the recovery-only owners,
of the resumed ones and of the terminal fence. Replay checks every such record again; the records
of the operations pass the checks that concern the record alone.
-/

namespace Hepta

/-! ### The records -/

namespace System

def accountFenceEvent (tsMs : Int) (context : AgentExecutionContext) : OmsJournalEvent :=
  controlEvent tsMs context .accountNewEntryFenced "fenced"
    "account-wide new-entry admission blocked" "ACCOUNT_NEW_ENTRY_FENCED"

def sessionFenceEvent (tsMs : Int) (agentId sessionId toolCallId : String) : OmsJournalEvent :=
  controlEvent tsMs { agentId := agentId, sessionId := sessionId, toolCallId := toolCallId }
    .sessionOwnerFenced "fenced" "session revoked or expired" "SESSION_OWNER_FENCED"

def recoveryOnlyEvent (tsMs : Int) (agentId sessionId toolCallId : String) (fence : UInt64) :
    OmsJournalEvent :=
  controlEvent tsMs { agentId := agentId, sessionId := sessionId, toolCallId := toolCallId }
    .sessionOwnerRecoveryOnly (toString fence.toNat) "root custodian blocked new entry"
    "SESSION_RECOVERY_ONLY"

/-- A release; it names the fence of the recovery-only owner that it resumes. -/
def releaseEvent (tsMs : Int) (agentId sessionId toolCallId : String) (resumed : Option UInt64) :
    OmsJournalEvent :=
  controlEvent tsMs { agentId := agentId, sessionId := sessionId, toolCallId := toolCallId }
    .sessionOwnerFenceRelease (resumed.elim "released" userRecoveryRelease)
    "authoritative open orders complete and owner has no active orders"
    "SESSION_OWNER_FENCE_RELEASED"

end System

open Hepta.System

inductive OmsJournalEvent.FenceRecord : OmsJournalEvent → Prop
  | account (tsMs : Int) {context : AgentExecutionContext} (agent : context.agentId ≠ "")
      (session : context.sessionId ≠ "") (command : context.toolCallId ≠ "")
      (account : context.account ≠ "") : FenceRecord (accountFenceEvent tsMs context)
  | session (tsMs : Int) {agentId sessionId toolCallId : String} (agent : agentId ≠ "")
      (command : toolCallId ≠ "") :
      FenceRecord (sessionFenceEvent tsMs agentId sessionId toolCallId)
  | recoveryOnly (tsMs : Int) {agentId sessionId toolCallId : String} {fence : UInt64}
      (agent : agentId ≠ "") (command : toolCallId ≠ "") (positive : fence ≠ 0) :
      FenceRecord (recoveryOnlyEvent tsMs agentId sessionId toolCallId fence)
  | release (tsMs : Int) {agentId sessionId toolCallId : String} {resumed : Option UInt64}
      (agent : agentId ≠ "") (command : toolCallId ≠ "") (positive : resumed ≠ some 0) :
      FenceRecord (releaseEvent tsMs agentId sessionId toolCallId resumed)
  | terminal (tsMs : Int) {binding : PaperTerminalFenceBinding} (valid : binding.valid = true) :
      FenceRecord (terminalFenceEvent tsMs binding)

namespace OmsJournalEvent.FenceRecord

variable {e : OmsJournalEvent}

lemma isFence (h : e.FenceRecord) : e.eventType.isFence = true := by
  cases h <;> rfl

lemma named (h : e.FenceRecord) : e.commandId ≠ "" ∧ e.agentId ≠ "" := by
  have hm : ∀ {tsMs : Int} {context : AgentExecutionContext} {et : EventType}
      {orderId : Int} {ins side : String} {qty price : Double}
      {st rs riskCode requestHash correlation : String}, context.toolCallId ≠ "" →
      context.agentId ≠ "" →
      (buildEvent tsMs context et orderId ins side qty price st rs riskCode
        requestHash correlation).commandId ≠ "" ∧
      (buildEvent tsMs context et orderId ins side qty price st rs riskCode
        requestHash correlation).agentId ≠ "" := by
    intro tsMs context et orderId ins side qty price st rs riskCode requestHash
      correlation hc ha
    rw [commandId_buildEvent hc, agentId_buildEvent]
    exact ⟨hc, ha⟩
  cases h with
  | account tsMs agent session cd account => exact hm cd agent
  | session tsMs agent cd => exact hm cd agent
  | recoveryOnly tsMs agent cd positive => exact hm cd agent
  | release tsMs agent cd positive => exact hm cd agent
  | terminal tsMs valid =>
    simp only [PaperTerminalFenceBinding.valid, Bool.and_eq_true] at valid
    obtain ⟨⟨⟨⟨⟨⟨⟨⟨⟨⟨⟨⟨ha, -⟩, -⟩, -⟩, hf⟩, -⟩, -⟩, -⟩, -⟩, -⟩, -⟩, -⟩, -⟩ := valid
    exact hm (ascii_of_isText hf).1 (ascii_of_isText ha).1

end OmsJournalEvent.FenceRecord

/-- A record that makes replay block for a failed projection. -/
def OmsJournalEvent.FailsProjection (e : OmsJournalEvent) : Prop :=
  e.isCommand = true ∧ e.eventType = .executionProjectionFailed

/-! ### Replay -/

/-- What replay knows of the recovery-only owners, of the fences they were resumed from, and of the
terminal fence. -/
structure FenceState where
  recoveryOnly : UMap String UInt64 := ∅
  resumed : UMap String UInt64 := ∅
  terminal : Bool := false

namespace Coordinator

def fences (c : Coordinator) : FenceState :=
  ⟨c.recoveryOnlySessionOwners, c.resumedRecoveryIngress, c.paperTerminalFencePresent⟩

/-- The record of the terminal fence agrees with the binding in its text. -/
def terminalRecordValid (event : OmsJournalEvent) : Bool :=
  match PaperTerminalFenceBinding.decode event.reason with
  | .error _ => false
  | .ok binding => ¬ (
    binding.owner.agentId ≠ event.agentId ∨ binding.owner.sessionId ≠ event.traceId ∨
    binding.owner.account ≠ event.account ∨
    binding.owner.executionDomain ≠ event.executionDomain ∨
    binding.finalizationId ≠ event.reqId ∨
    binding.preliminaryReceiptSha256 ≠ event.requestHash ∨
    binding.brokerSocketIdentitySha256 ≠ event.venueCorrelationId ∨
    event.status ≠ toString binding.recoveryIngressFence.toNat ∨
    event.riskCode ≠ "IB_PAPER_TERMINAL_HALTED")

def fenceStep (fences : FenceState) (event : OmsJournalEvent) : FenceState :=
  let key := ownerKey event.agentId event.traceId
  if event.commandId = "" ∨ event.agentId = "" then fences
  else match event.eventType with
    | .sessionOwnerRecoveryOnly =>
      match (strtoull event.status).filter (· ≠ 0) with
      | none => fences
      | some fence =>
        if (fences.resumed.lookup key).any (fence ≤ ·) then fences
        else { fences with recoveryOnly := fences.recoveryOnly.insert key fence }
    | .sessionOwnerFenceRelease =>
      match userRecoveryFence event.status with
      | some (some fence) =>
        if fences.recoveryOnly.lookup key = some fence ∧ !fences.terminal then
          { fences with
            resumed := fences.resumed.insert key fence
            recoveryOnly := fences.recoveryOnly.erase key }
        else fences
      | _ => fences
    | .paperTerminalFence => { fences with terminal := fences.terminal || terminalRecordValid event }
    | _ => fences

/-- The fences that the records describe. -/
def foldFences (events : List OmsJournalEvent) : FenceState := events.foldl fenceStep {}

variable {c c' : Coordinator} {event : OmsJournalEvent}

lemma fences_applyRecoveredPaperTerminalFence (c : Coordinator) (event : OmsJournalEvent) :
    (c.applyRecoveredPaperTerminalFence event).fences =
      { c.fences with terminal := c.fences.terminal || terminalRecordValid event } := by
  unfold applyRecoveredPaperTerminalFence terminalRecordValid
  cases PaperTerminalFenceBinding.decode event.reason with
  | error => simp [fences, block]
  | ok =>
    simp only []
    split_ifs with hd hc
    · rw [decide_eq_false (not_not.mpr hd), Bool.or_false]
      rfl
    · simp [fences, block, hc.1]
    · rw [decide_eq_true hd, Bool.or_true]
      rfl

lemma fences_applyRecoveredOwnershipEvent (hm : ¬ (event.commandId = "" ∨ event.agentId = ""))
    (h : c.applyRecoveredOwnershipEvent event = some c') : c'.fences = fenceStep c.fences event := by
  unfold applyRecoveredOwnershipEvent at h
  rw [fenceStep, if_neg hm]
  split at h <;> rename_i hy <;> (try simp only [Option.some.injEq, reduceCtorEq] at h) <;>
    subst h <;> simp only [hy]
  · unfold applyRecoveredAccountFence
    split_ifs <;> rfl
  · rfl
  · unfold applyRecoveredRecoveryOnly
    cases (strtoull event.status).filter (· ≠ 0) with
    | none => rfl
    | some fence =>
      by_cases hs : (c.resumedRecoveryIngress.lookup
          (ownerKey event.agentId event.traceId)).any (fence ≤ ·) = true <;>
        simp [fences, block, hs]
  · unfold applyRecoveredRelease
    cases hf : userRecoveryFence event.status with
    | none =>
      simp only []
      split_ifs <;> rfl
    | some fence =>
      cases fence with
      | none => rfl
      | some fence =>
        by_cases hh : c.recoveryOnlySessionOwners.lookup
            (ownerKey event.agentId event.traceId) = some fence <;>
          cases ht : c.paperTerminalFencePresent <;>
            simp [fences, block, hh, ht]
  · rfl
  · exact fences_applyRecoveredPaperTerminalFence c event

lemma fences_applyRecoveredEvent (c : Coordinator) (event : OmsJournalEvent) :
    (c.applyRecoveredEvent event).fences = fenceStep c.fences event := by
  by_cases hr : event.eventType = .executionProjectionResolved
  · simp only [applyRecoveredEvent, hr, if_true, applyRecoveredProjectionResolved, fenceStep]
    split_ifs <;> rfl
  cases hc : event.isCommand with
  | true =>
    have ht : event.eventType.isCommand = true := by
      simp only [OmsJournalEvent.isCommand, Bool.and_eq_true] at hc
      exact hc.1.1
    have hs : fenceStep c.fences event = c.fences := by
      unfold fenceStep
      split_ifs
      · rfl
      · cases heq : event.eventType <;> simp_all [EventType.isCommand]
    rw [hs, applyRecoveredEvent_of_isCommand hc]
    simp only [applyRecoveredCommandEvent, trackRecoveredSendAttempt]
    split_ifs <;> rfl
  | false =>
    rcases applyRecoveredEvent_of_not_isCommand (c := c) hc hr with
      ⟨hm, h⟩ | ⟨hm, h⟩
    · rw [h, fenceStep, if_pos hm]
    · exact fences_applyRecoveredOwnershipEvent hm h

lemma fences_replay (events : List OmsJournalEvent) :
    (replay events).fences = foldFences events := by
  have hf : ∀ c : Coordinator, (events.foldl applyRecoveredEvent c).fences =
      events.foldl fenceStep c.fences := by
    induction events with
    | nil => exact fun _ => rfl
    | cons event events ih =>
      intro c
      rw [List.foldl_cons, List.foldl_cons, ih, fences_applyRecoveredEvent]
  exact hf {}

lemma fences_recovered (events : List OmsJournalEvent) :
    (recovered events).fences = foldFences events := by
  rw [← fences_replay]
  unfold recovered validateRecovered
  split_ifs <;> rfl

/-- The records that change what replay knows of the fences. -/
def isIngress : EventType → Bool
  | .sessionOwnerRecoveryOnly | .sessionOwnerFenceRelease | .paperTerminalFence => true
  | _ => false

lemma fenceStep_of_not_isIngress (h : isIngress event.eventType = false) (fences : FenceState) :
    fenceStep fences event = fences := by
  unfold fenceStep
  split_ifs
  · rfl
  · cases heq : event.eventType <;> simp_all [isIngress]

/-- Replay takes the record as it stands. -/
def admits (fences : FenceState) (event : OmsJournalEvent) : Bool :=
  let key := ownerKey event.agentId event.traceId
  if event.commandId = "" ∨ event.agentId = "" then true
  else match event.eventType with
    | .sessionOwnerRecoveryOnly =>
      match (strtoull event.status).filter (· ≠ 0) with
      | none => false
      | some fence => !(fences.resumed.lookup key).any (fence ≤ ·)
    | .sessionOwnerFenceRelease =>
      match userRecoveryFence event.status with
      | none => event.status = "released"
      | some none => false
      | some (some fence) => fences.recoveryOnly.lookup key = some fence && !fences.terminal
    | _ => true

/-- The blocks of replay that concern a recovery-only owner or its release. -/
def ingressBlocks : List String :=
  ["OMS_RECOVERY_INGRESS_REPLAYED_AFTER_RESUME", "OMS_USER_RECOVERY_RELEASE_INVALID",
    "OMS_SESSION_RELEASE_STATE_INVALID", "OMS_RECOVERY_ONLY_FENCE_INVALID"]

/-- The other blocks of replay, those of failed projections apart. -/
def replayBlocks : List String :=
  ["OMS_REQUEST_HASH_CONFLICT", "OMS_ACCOUNT_NEW_ENTRY_FENCE_RECOVERY_INVALID",
    "IB_PAPER_TERMINAL_FENCE_V2_REQUIRED", "IB_PAPER_TERMINAL_FENCE_BINDING_INVALID",
    "OMS_PAPER_TERMINAL_FENCE_BINDING_INVALID", "OMS_PAPER_TERMINAL_FENCE_CONFLICT",
    "IB_PAPER_TERMINAL_HALTED"]

inductive BlockStep (c : Coordinator) (event : OmsJournalEvent) (c' : Coordinator) : Prop
  | kept (blocked : c'.mutationBlocked = c.mutationBlocked)
      (reason : c'.mutationBlockReason = c.mutationBlockReason)
  | lifted (projection : isProjectionFailureReason c.mutationBlockReason = true)
      (free : c'.mutationBlocked = false) (reason : c'.mutationBlockReason = "")
  | failed (failed : event.FailsProjection) (blocked : c'.mutationBlocked = true)
      (reason : event.riskCode ≠ "" → c'.mutationBlockReason = event.riskCode)
  | blocked (blocked : c'.mutationBlocked = true) (reason : c'.mutationBlockReason ∈ replayBlocks)
  | refused (refused : admits c.fences event = false) (blocked : c'.mutationBlocked = true)
      (reason : c'.mutationBlockReason ∈ ingressBlocks)

lemma blockStep_applyRecoveredPaperTerminalFence (c : Coordinator) (event : OmsJournalEvent) :
    BlockStep c event (c.applyRecoveredPaperTerminalFence event) := by
  unfold applyRecoveredPaperTerminalFence
  split
  · rename_i hd
    refine .blocked rfl ?_
    rcases PaperTerminalFenceBinding.decode_error hd with rfl | rfl <;>
      simp [block, replayBlocks]
  · split_ifs <;> exact .blocked rfl (by simp [block, replayBlocks])

lemma blockStep_applyRecoveredOwnershipEvent
    (hnamed : ¬ (event.commandId = "" ∨ event.agentId = ""))
    (h : c.applyRecoveredOwnershipEvent event = some c') : BlockStep c event c' := by
  unfold applyRecoveredOwnershipEvent at h
  split at h <;> rename_i ht <;> (try simp only [Option.some.injEq, reduceCtorEq] at h) <;>
    subst h
  · unfold applyRecoveredAccountFence
    split_ifs
    · exact .blocked rfl (by simp [block, replayBlocks])
    · exact .kept rfl rfl
  · exact .kept rfl rfl
  · unfold applyRecoveredRecoveryOnly
    cases hstatus : (strtoull event.status).filter (· ≠ 0) with
    | none =>
      refine .refused ?_ rfl (by simp [block, ingressBlocks])
      simp only [admits, if_neg hnamed, ht]
      rw [hstatus]
    | some =>
      simp only []
      split_ifs with hs
      · refine .refused ?_ rfl (by simp [block, ingressBlocks])
        simp only [admits, if_neg hnamed, ht]
        rw [hstatus]
        simpa [fences] using hs
      · exact .kept rfl rfl
  · unfold applyRecoveredRelease
    cases hstatus : userRecoveryFence event.status with
    | none =>
      simp only []
      split_ifs with hr
      · exact .kept rfl rfl
      · exact .refused (by simp [admits, hnamed, ht, hstatus, hr]) rfl
          (by simp [block, ingressBlocks])
    | some fence =>
      cases fence with
      | none =>
        exact .refused (by simp [admits, hnamed, ht, hstatus]) rfl
          (by simp [block, ingressBlocks])
      | some =>
        simp only []
        split_ifs with hh
        · exact .kept rfl rfl
        · refine .refused ?_ rfl (by simp [block, ingressBlocks])
          simp only [admits, if_neg hnamed, ht, hstatus]
          rw [Bool.eq_false_iff, ne_eq, Bool.and_eq_true, decide_eq_true_eq]
          exact hh
  · exact .kept rfl rfl
  · exact blockStep_applyRecoveredPaperTerminalFence c event

lemma blockStep_applyRecoveredEvent (c : Coordinator) (event : OmsJournalEvent) :
    BlockStep c event (c.applyRecoveredEvent event) := by
  by_cases hr : event.eventType = .executionProjectionResolved
  · simp only [applyRecoveredEvent, hr, if_true, applyRecoveredProjectionResolved]
    split_ifs with hp
    · exact .lifted hp rfl rfl
    · exact .kept rfl rfl
  cases hc : event.isCommand with
  | true =>
    rw [applyRecoveredEvent_of_isCommand hc]
    simp only [applyRecoveredCommandEvent]
    split_ifs with hcn hf
    · exact .blocked rfl (by simp [block, replayBlocks])
    · refine .failed ⟨hc, hf⟩ rfl fun hd => ?_
      simp only [block, RequestRecord.applyCommandState, hf, hd, if_false]
    · refine .kept ?_ ?_ <;> simp only [putRecord, trackRecoveredSendAttempt] <;> split_ifs <;> rfl
  | false =>
    rcases applyRecoveredEvent_of_not_isCommand (c := c) hc hr with
      ⟨-, h⟩ | ⟨hm, h⟩
    · rw [h]
      exact .kept rfl rfl
    · exact blockStep_applyRecoveredOwnershipEvent hm h

section records

variable {tsMs : Int} {agentId sessionId toolCallId : String} {fence : UInt64} {fences : FenceState}
  {binding : PaperTerminalFenceBinding}

lemma recoveryOnlyEvent_reads (tsMs : Int) (agentId sessionId toolCallId : String)
    (fence : UInt64) :
    let e := recoveryOnlyEvent tsMs agentId sessionId toolCallId fence
    e.agentId = agentId ∧ e.traceId = sessionId ∧ e.eventType = .sessionOwnerRecoveryOnly ∧
      e.status = toString fence.toNat :=
  ⟨agentId_buildEvent .., rfl, rfl, rfl⟩

lemma releaseEvent_reads (tsMs : Int) (agentId sessionId toolCallId : String)
    (resumed : Option UInt64) :
    let e := releaseEvent tsMs agentId sessionId toolCallId resumed
    e.agentId = agentId ∧ e.traceId = sessionId ∧ e.eventType = .sessionOwnerFenceRelease ∧
      e.status = resumed.elim "released" userRecoveryRelease :=
  ⟨agentId_buildEvent .., rfl, rfl, rfl⟩

lemma strtoull_fence (h : fence ≠ 0) :
    (strtoull (toString fence.toNat)).filter (· ≠ 0) = some fence := by
  rw [strtoull_toString, Option.filter_some, if_pos (by simpa using h)]

lemma fenceStep_recoveryOnly (ha : agentId ≠ "") (hc : toolCallId ≠ "")
    (hp : fence ≠ 0) (hf : (fences.resumed.lookup (ownerKey agentId sessionId)).any
      (fence ≤ ·) = false) :
    fenceStep fences (recoveryOnlyEvent tsMs agentId sessionId toolCallId fence) =
      { fences with recoveryOnly := fences.recoveryOnly.insert (ownerKey agentId sessionId) fence } := by
  have hr : (recoveryOnlyEvent tsMs agentId sessionId toolCallId fence).FenceRecord :=
    .recoveryOnly tsMs ha hc hp
  obtain ⟨hm, ha'⟩ := hr.named
  obtain ⟨hi, hs, ht, hst⟩ :=
    recoveryOnlyEvent_reads tsMs agentId sessionId toolCallId fence
  rw [fenceStep, if_neg (not_or.mpr ⟨hm, ha'⟩), hi, hs, ht, hst]
  simp only [strtoull_fence hp]
  rw [if_neg (by simp [hf])]

lemma fenceStep_released (tsMs : Int) (agentId sessionId toolCallId : String) (fences : FenceState)
    : fenceStep fences (releaseEvent tsMs agentId sessionId toolCallId none) = fences := by
  obtain ⟨-, -, ht, hstatus⟩ := releaseEvent_reads tsMs agentId sessionId toolCallId none
  unfold fenceStep
  split_ifs
  · rfl
  · simp only [ht, hstatus, Option.elim_none, userRecoveryFence_released]

lemma fenceStep_resumed (ha : agentId ≠ "") (hc : toolCallId ≠ "")
    (hp : fence ≠ 0)
    (hh : fences.recoveryOnly.lookup (ownerKey agentId sessionId) = some fence)
    (ht : fences.terminal = false) :
    fenceStep fences (releaseEvent tsMs agentId sessionId toolCallId (some fence)) =
      { fences with
        resumed := fences.resumed.insert (ownerKey agentId sessionId) fence
        recoveryOnly := fences.recoveryOnly.erase (ownerKey agentId sessionId) } := by
  have hr : (releaseEvent tsMs agentId sessionId toolCallId (some fence)).FenceRecord :=
    .release tsMs ha hc (by simpa using hp)
  obtain ⟨hm, ha'⟩ := hr.named
  obtain ⟨hi, hs, hy, hstatus⟩ :=
    releaseEvent_reads tsMs agentId sessionId toolCallId (some fence)
  rw [fenceStep, if_neg (not_or.mpr ⟨hm, ha'⟩), hi, hs, hy, hstatus,
    Option.elim_some, userRecoveryFence_userRecoveryRelease hp]
  simp only []
  rw [if_pos ⟨hh, by simp [ht]⟩]

lemma terminalRecordValid_terminalFenceEvent (h : binding.valid = true) (tsMs : Int) :
    terminalRecordValid (terminalFenceEvent tsMs binding) = true := by
  have ht : (terminalFenceEvent tsMs binding).reason = binding.encode := rfl
  have ha : (terminalFenceEvent tsMs binding).agentId = binding.owner.agentId :=
    agentId_buildEvent ..
  simp only [terminalRecordValid, ht, PaperTerminalFenceBinding.decode_encode h, ha]
  simp [terminalFenceEvent, buildEvent, PaperTerminalFenceBinding.journaled, paperTerminalHalted]

lemma fenceStep_terminal (h : binding.valid = true) :
    fenceStep fences (terminalFenceEvent tsMs binding) = { fences with terminal := true } := by
  obtain ⟨hm, ha⟩ := (OmsJournalEvent.FenceRecord.terminal tsMs h).named
  have ht : (terminalFenceEvent tsMs binding).eventType = .paperTerminalFence := rfl
  rw [fenceStep, if_neg (not_or.mpr ⟨hm, ha⟩)]
  simp only [ht, terminalRecordValid_terminalFenceEvent h, Bool.or_true]

end records

end Coordinator

end Hepta
