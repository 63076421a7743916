import Hepta.Library.Fold
import Hepta.Journal.Append
import Hepta.Execution.FenceReplay
import Hepta.Execution.Run

/-!
# Moves

What one stretch of work under the mutex can do to the service, said once. Every action is a
sequence of moves, and every invariant is checked against the moves. A move speaks of the journal,
the requests, the order owners, the mutation block, the fences, the venue calls with their risk
scopes, and the send-attempt index.
-/

namespace Hepta

open Coordinator Stage

namespace OmsJournal

/-- The records `events` enter the journal one after another. -/
inductive Journaled (cfg : OmsJournalConfig) :
    OmsJournal → List OmsJournalEvent → OmsJournal → Prop
  | quiet {j j' : OmsJournal} (h : Quiet j j') : Journaled cfg j [] j'
  | enter {j j₁ j' : OmsJournal} {e : OmsJournalEvent} {events : List OmsJournalEvent}
      (h : Enters cfg e j j₁) (rest : Journaled cfg j₁ events j') : Journaled cfg j (e :: events) j'

variable {cfg : OmsJournalConfig} {j j' : OmsJournal} {e b : OmsJournalEvent}
  {events : List OmsJournalEvent}

lemma Journaled.synced (h : Journaled cfg j events j') : j.synced <+: j'.synced := by
  induction h with
  | quiet h => exact h.synced
  | enter h _ ih => exact h.synced.trans ih

lemma Enters.mem_records (h : Enters cfg e j j') : b ∈ j'.records ↔ b = e ∨ b ∈ j.records := by
  obtain ⟨front, back, hj, hj', -⟩ := h.inserted
  rw [hj, hj']
  simp only [List.mem_append, List.mem_cons]
  tauto

lemma Journaled.mem_records (h : Journaled cfg j events j') :
    b ∈ j'.records ↔ b ∈ events ∨ b ∈ j.records := by
  induction h with
  | quiet h => simp [h.records]
  | enter h _ ih =>
    rw [ih, h.mem_records, List.mem_cons]
    tauto

lemma Quiet.journaled {j₁ : OmsJournal} (h : Quiet j j₁) (h' : Journaled cfg j₁ events j') :
    Journaled cfg j events j' := by
  cases h' with
  | quiet h' => exact .quiet (h.trans h')
  | enter h' rest => exact .enter (h.enters h') rest

lemma Journaled.foldl_fixed {β : Type} {f : β → OmsJournalEvent → β} {b : β}
    (h : Journaled cfg j events j') (hf : ∀ e ∈ events, ∀ c, f c e = c) :
    j'.records.foldl f b = j.records.foldl f b := by
  induction h with
  | quiet h => rw [h.records]
  | enter h _ ih =>
    obtain ⟨_, _, hj, hj', -⟩ := h.inserted
    rw [ih fun e he => hf e (by simp [he]), hj, hj']
    exact List.foldl_append_cons_fixed b (hf _ (by simp))

end OmsJournal

open OmsJournal RequestRecord

/-- What a class of runs may do. -/
structure Allowance where
  /-- An append may fail. -/
  fault : Prop
  /-- A cancel may be resolved whose order id has gone to another correlation. -/
  reuse : Prop
  /-- An owner may go without a record. -/
  forget : Prop
  /-- Fences may be entered and released. -/
  fence : Prop
  /-- The process may recover. -/
  recover : Prop
  /-- A broker reconnect may end. -/
  reconnect : Prop
  /-- The operations that may call the venue. -/
  call : Operation → Prop
  /-- The states in which the block of a failed projection may be lifted. -/
  lift : System → Prop

/-- The reasons that some operation lifts again. -/
def isClearable (reason : String) : Bool :=
  reason = recoveryReconcileRequired || isProjectionFailureReason reason ||
  reason = System.brokerReconnectPending

/-- The reasons for which the end of a venue call closes admission. -/
def notReconnect (reason : String) : Bool := reason ≠ System.brokerReconnectPending

/-- The reasons that stay until the process is restarted. -/
def isLasting (reason : String) : Bool := !isClearable reason

/-- The fences, with the operations that reported them. -/
structure FenceView where
  accountNewEntryFences : Finset String
  fencedSessionOwners : Finset String
  recoveryOnlySessionOwners : UMap String UInt64
  resumedRecoveryIngress : UMap String UInt64
  paperTerminalFencePresent : Bool
  paperTerminalFenceBinding : PaperTerminalFenceBinding
  acknowledged : List FenceAcknowledgement

def System.fenceView (s : System) : FenceView :=
  ⟨s.accountNewEntryFences, s.fencedSessionOwners, s.recoveryOnlySessionOwners,
    s.resumedRecoveryIngress, s.paperTerminalFencePresent, s.paperTerminalFenceBinding,
    s.acknowledged⟩

/-- The calls that were made and those that are under way, with the scopes they reserve. -/
structure FlightView where
  dispatches : List Dispatch
  venueDispatchesInFlight : Nat
  venueCalls : List VenueCall
  preflights : List CancelOrderCommand
  riskMutationDispatches : UMap String RiskMutationDispatchScope

def System.flightView (s : System) : FlightView :=
  ⟨s.dispatches, s.venueDispatchesInFlight, s.venueCalls, s.preflights, s.riskMutationDispatches⟩

/-- The scope of a call is reserved; an entry under the same key stays. -/
def System.reserve (s : System) (dispatch : Dispatch) : System :=
  { s with
    riskMutationDispatches := match dispatch.riskScope with
      | some scope =>
        if dispatch.requestKey ∈ s.riskMutationDispatches then s.riskMutationDispatches
        else s.riskMutationDispatches.insert dispatch.requestKey scope
      | none => s.riskMutationDispatches }

/-- A call has returned and its scope is free again. -/
def System.callReturned (s : System) (dispatch : Dispatch) : System :=
  { s.venueReturned dispatch with
    riskMutationDispatches := match dispatch.riskScope with
      | some _ => s.riskMutationDispatches.erase dispatch.requestKey
      | none   => s.riskMutationDispatches }

/-- What the scopes of the running calls must leave room for. -/
def System.Exclusive (s : System) : Dispatch → Prop
  | .place ..                  => s.riskMutationDispatches = ∅
  | .cancel ..                 => True
  | .flatten command plan _    =>
    ¬ s.riskMutationConflicts command.context command.instrument plan.contract

/-- The records that say that a command is about to be sent and count against its budget. -/
def EventType.isSendAttempt : EventType → Bool
  | .placeSendAttempt | .flattenSendAttempt => true
  | _ => false

/-- The entry of a command in the index of send attempts. -/
def OmsJournalEvent.sendAttempt (event : OmsJournalEvent) : PlaceSendAttempt :=
  ⟨event.requestKey, event.account, event.executionDomain, event.tsMs⟩

/-- What work on the command under `key` does to the index: the send attempts among its records
are in it in the end, or the writer is out of use. -/
structure Indexes (key : String) (s : System) (events : List OmsJournalEvent) (s' : System) :
    Prop where
  kept : s.placeSendAttempts ⊆ s'.placeSendAttempts
  keys : s'.placeSendAttemptKeys ⊆ insert key s.placeSendAttemptKeys
  attempts : s'.journal.writePoisoned = true ∨ ∀ e ∈ events, e.eventType.isSendAttempt = true →
    e.sendAttempt ∈ s'.placeSendAttempts
  admitted : ∀ e ∈ events, e.eventType.isSendAttempt = true → s.mutationBlocked = false

/-- Everything a move speaks of. -/
structure View where
  journal : OmsJournal
  requests : UMap String RequestRecord
  orderOwners : UMap Int ExecutionOrderOwner
  mutationBlocked : Bool
  mutationBlockReason : String
  fences : FenceView
  flight : FlightView

def System.view (s : System) : View :=
  ⟨s.journal, s.requests, s.orderOwners, s.mutationBlocked, s.mutationBlockReason, s.fenceView,
    s.flightView⟩

@[simp] lemma System.view_trackSendAttempt (s : System) (attempt : PlaceSendAttempt) :
    (s.trackSendAttempt attempt).view = s.view := by
  unfold System.trackSendAttempt
  split_ifs <;> rfl

lemma System.beginRiskMutationDispatch_place (s : System) (c : PlaceOrderCommand)
    (d : PlaceOrderDispatchContext) :
    s.beginRiskMutationDispatch c.context d.instrument c.contract
      d.requestKey = s.reserve (.place c d) := by
  by_cases hk : d.requestKey ∈ s.riskMutationDispatches <;>
    simp [System.beginRiskMutationDispatch, System.reserve, Dispatch.riskScope,
      Dispatch.requestKey, hk]

lemma System.beginRiskMutationDispatch_flatten (s : System) (c : FlattenPositionCommand)
    (plan : AuthoritativeFlattenPlan) (d : AuthoritativeFlattenDispatchContext) :
    s.beginRiskMutationDispatch c.context c.instrument plan.contract
      d.requestKey = s.reserve (.flatten c plan d) := by
  by_cases hk : d.requestKey ∈ s.riskMutationDispatches <;>
    simp [System.beginRiskMutationDispatch, System.reserve, Dispatch.riskScope,
      Dispatch.requestKey, hk]

/-! ### The index of send attempts -/

section index

variable {key : String} {s s₁ s' : System} {e : OmsJournalEvent} {events : List OmsJournalEvent}

/-- From `s` to `s'` at most the command under `key` has entered the index. -/
def Tracks (key : String) (s s' : System) : Prop :=
  s.placeSendAttempts ⊆ s'.placeSendAttempts ∧
    s'.placeSendAttemptKeys ⊆ insert key s.placeSendAttemptKeys

lemma Tracks.of_eq (h : s'.sendIndex = s.sendIndex) : Tracks key s s' := by
  have hk : s'.placeSendAttemptKeys = s.placeSendAttemptKeys := congrArg Prod.fst h
  have ha : s'.placeSendAttempts = s.placeSendAttempts := congrArg Prod.snd h
  rw [Tracks, hk, ha]
  exact ⟨List.Subset.refl _, Finset.subset_insert _ _⟩

lemma tracks_trackSendAttempt (s : System) (attempt : PlaceSendAttempt) :
    Tracks attempt.requestKey s (s.trackSendAttempt attempt) := by
  unfold System.trackSendAttempt
  split_ifs with hk
  · exact Tracks.of_eq rfl
  · exact ⟨List.subset_append_left _ _, Finset.Subset.refl _⟩

/-- The first attempt of a command enters the index. -/
lemma mem_trackSendAttempt {attempt : PlaceSendAttempt}
    (h : attempt.requestKey ∉ s.placeSendAttemptKeys) :
    attempt ∈ (s.trackSendAttempt attempt).placeSendAttempts := by
  simp [System.trackSendAttempt, h]

lemma Tracks.indexes (h : Tracks key s s')
    (hs : s'.journal.writePoisoned = true ∨ ∀ e ∈ events, e.eventType.isSendAttempt = true →
      e.sendAttempt ∈ s'.placeSendAttempts)
    (ha : ∀ e ∈ events, e.eventType.isSendAttempt = true → s.mutationBlocked = false) :
    Indexes key s events s' := ⟨h.1, h.2, hs, ha⟩

lemma Indexes.of_tracks (h : Indexes key s₁ events s') (ht : Tracks key s s₁)
    (hb : s₁.mutationBlocked = false → s.mutationBlocked = false) : Indexes key s events s' := by
  refine ⟨List.Subset.trans ht.1 h.kept, ?_, h.attempts, fun e he hs => hb (h.admitted e he hs)⟩
  intro key' hk'
  rcases Finset.mem_insert.mp (h.keys hk') with rfl | hk'
  · exact Finset.mem_insert_self _ _
  · exact ht.2 hk'

lemma Indexes.cons (h : Indexes key s events s')
    (hs : e.eventType.isSendAttempt = true → s.mutationBlocked = false ∧
      (s'.journal.writePoisoned = true ∨ e.sendAttempt ∈ s'.placeSendAttempts)) :
    Indexes key s (e :: events) s' := by
  refine ⟨h.kept, h.keys, ?_, List.forall_mem_cons.mpr ⟨fun he => (hs he).1, h.admitted⟩⟩
  rcases h.attempts with hp | ha
  · exact .inl hp
  · by_cases hp : s'.journal.writePoisoned = true
    · exact .inl hp
    · exact .inr (List.forall_mem_cons.mpr ⟨fun he => (hs he).2.resolve_left hp, ha⟩)

end index

/-- A record names its agent and a command, except that the coordinator itself writes down the end
of a projection block. -/
def OmsJournalEvent.Authored (e : OmsJournalEvent) : Prop :=
  (e.commandId ≠ "" ∧ e.agentId ≠ "") ∨
    (e.eventType = .executionProjectionResolved ∧ e.source = "execution.coordinator")

lemma OmsJournalEvent.authored_of_isCommand {e : OmsJournalEvent} (h : e.isCommand = true) :
    e.Authored := by
  simp only [isCommand, Bool.and_eq_true, decide_eq_true_eq] at h
  exact .inl ⟨h.1.2, h.2⟩

/-- The event is about the command of `base`. -/
structure OmsJournalEvent.Belongs (base : RequestRecord) (event : OmsJournalEvent) : Prop where
  isCommand : event.isCommand = true
  identity : event.identity = base.identity
  correlation : event.venueCorrelationId = base.venueCorrelationId ∨ event.venueCorrelationId = ""

lemma OmsJournalEvent.Belongs.requestKey {base : RequestRecord} {e : OmsJournalEvent}
    (h : e.Belongs base) : e.requestKey = base.context.requestKey := by
  have hi := h.identity
  simp only [OmsJournalEvent.identity, RequestRecord.identity, CommandIdentity.mk.injEq] at hi
  obtain ⟨ha, hs, ht, -⟩ := hi
  simp [OmsJournalEvent.requestKey, AgentExecutionContext.requestKey, ha, hs, ht]

section

variable {base folded live : RequestRecord} {event : OmsJournalEvent}

lemma RequestRecord.Stems.absorb (h : Stems base folded) (hb : event.Belongs base)
    (ho : (folded.absorb event).operation = base.operation) : Stems base (folded.absorb event) := by
  have hh : event.requestHash = base.requestHash :=
    congrArg CommandIdentity.requestHash hb.identity
  refine ⟨?_, ?_, ho⟩
  · simp [h.requestHash, hh]
  · rcases hb.correlation with hc | hc <;> simp [h.venueCorrelationId, hc]

lemma RequestRecord.Stems.identity (h : Stems base (folded.absorb event))
    (hi : event.identity = base.identity) : base.identity = (folded.absorb event).identity := by
  rw [← hi]
  simp only [OmsJournalEvent.identity, RequestRecord.identity, absorb_agentId, absorb_sessionId,
    absorb_toolCallId, h.requestHash, CommandIdentity.mk.injEq, true_and]
  exact congrArg CommandIdentity.requestHash hi

lemma RequestRecord.Stems.agrees (h : Stems base folded) (hb : event.Belongs base)
    (hi : live.identity = base.identity) (hl : live.venueCorrelationId = base.venueCorrelationId)
    (hp : (folded.absorb event).operation = base.operation) (hv : live.operation = base.operation)
    (ho : live.orderId = event.orderId) (hstatus : live.status = (folded.absorb event).status)
    (hr : live.reasonCode = (folded.absorb event).reasonCode) : Agrees live (folded.absorb event) :=
    by
  have hs := h.absorb hb hp
  refine ⟨?_, ?_, ?_, hstatus, ?_, .inl hr⟩
  · exact hi.trans (hs.identity hb.identity)
  · rw [hl, hs.venueCorrelationId]
  · rw [hv, hp]
  · rw [ho, absorb_orderId]

end

/-- The mutation block stays as it is or is set for one of the given reasons. -/
def Blocks (reasons : String → Bool) (s s' : System) : Prop :=
  (s'.mutationBlocked = s.mutationBlocked ∧ s'.mutationBlockReason = s.mutationBlockReason) ∨
    (s'.mutationBlocked = true ∧ reasons s'.mutationBlockReason = true)

/-- New owners belong to the agent of `base`. -/
def Inherits (base : RequestRecord) (owners owners' : UMap Int ExecutionOrderOwner) : Prop :=
  ∀ orderId owner, owners'.lookup orderId = some owner →
    owners.lookup orderId = some owner ∨ owner.agentId = base.context.agentId

lemma Inherits.refl (base : RequestRecord) (owners : UMap Int ExecutionOrderOwner) :
    Inherits base owners owners := fun _ _ h => .inl h

lemma Inherits.trans {base : RequestRecord} {owners owners₁ owners' : UMap Int ExecutionOrderOwner}
    (h : Inherits base owners owners₁) (h' : Inherits base owners₁ owners') :
    Inherits base owners owners' :=
  fun orderId owner ho => (h' orderId owner ho).elim (h orderId owner) .inr

lemma Inherits.insert {base : RequestRecord} {owner : ExecutionOrderOwner}
    (h : owner.agentId = base.context.agentId) (ows : UMap Int ExecutionOrderOwner)
    (orderId : Int) : Inherits base ows (ows.insert orderId owner) := by
  intro orderId' owner' ho
  rcases lookup_insert_cases ho with ho | rfl
  · exact .inl ho
  · exact .inr h

lemma Inherits.erase (base : RequestRecord) (owners : UMap Int ExecutionOrderOwner)
    (orderId : Int) : Inherits base owners (owners.erase orderId) :=
  fun _ _ ho => .inl (lookup_of_lookup_erase ho)

/-- A stretch of work on the command of `base`, kept under `key`, from the stage `stage` on: the
records `events` enter the journal and `record` is what memory holds in the end. `start` are
the records that recovery may have folded before. -/
structure Writes (S : Service) (A : Allowance) (key : String) (base : RequestRecord)
    (start : RequestRecord → Prop) (stage : Stage) (s : System) (events : List OmsJournalEvent)
    (record : RequestRecord) (s' : System) : Prop where
  journaled : Journaled S.config s.journal events s'.journal
  ordered : Ordered S.config s'.journal
  poisoned : s.journal.writePoisoned = true → events = [] ∧ s'.journal.writePoisoned = true
  requests : s'.requests = s.requests.insert key record
  identity : record.identity = base.identity
  belongs : ∀ e ∈ events, e.Belongs base
  advances : ∃ after, stage.advance events = some after ∧
    (s'.journal.writePoisoned = true ∨ record.Fits after)
  correlation : record.placeResolvable ∨ record.cancelResolvable →
    record.venueCorrelationId = base.venueCorrelationId
  owners : A.fault ∨ A.reuse ∨
    s'.orderOwners = events.foldl applyCommandOwner s.orderOwners
  ownership : Inherits base s.orderOwners s'.orderOwners
  agrees : A.fault ∨ (s'.journal.writePoisoned = false ∧
    ∀ folded, start folded → Agrees record (events.foldl absorb folded))
  projected : ∀ e ∈ events, e.eventType.isProjectionFailure = true → record.status = .uncertain
  fences : s'.fenceView = s.fenceView

/-- A stretch of work after which the command of `base` waits for nothing: an open outcome has
closed admission. -/
def Closes (S : Service) (A : Allowance) (key : String) (base : RequestRecord)
    (start : RequestRecord → Prop) (stage : Stage) (reasons : String → Bool)
    (final : RequestRecord → Prop) (s s' : System) : Prop :=
  ∃ events record, Writes S A key base start stage s events record s' ∧
    (record.unsettled → s'.mutationBlocked = true) ∧ final record ∧ Blocks reasons s s' ∧
    s'.flightView = s.flightView ∧ Indexes key s events s'

/-! ### One append -/

structure Appended (S : Service) (e : OmsJournalEvent) (j j' : OmsJournal) : Prop where
  enters : Enters S.config e j j'
  ordered : Ordered S.config j'
  sound : j.writePoisoned = false
  soundAfter : j'.writePoisoned = false
  durable : S.config.syncCritical = true → e.eventType.isCritical = true → e ∈ j'.synced

/-- An append that failed. -/
structure Refused (S : Service) (A : Allowance) (e : OmsJournalEvent) (j j' : OmsJournal) :
    Prop where
  spoils : Spoils S.config e j j'
  ordered : Ordered S.config j'
  fault : A.fault
  poisoned : j.writePoisoned = true → j' = j

variable {S : Service} {A : Allowance} {s s₁ s' : System} {e : OmsJournalEvent} {io : AppendIo}

/-- Appends fail only in runs that allow it. -/
def Sound (A : Allowance) (j : OmsJournal) (io : AppendIo) : Prop :=
  A.fault ∨ (j.writePoisoned = false ∧ io.clean)

lemma Appended.next_sound {j j' : OmsJournal} (h : Appended S e j j')
    (hi : Sound A j io) : Sound A j' io :=
  hi.imp_right fun hi => ⟨h.soundAfter, hi.2⟩

lemma append_cases {j : OmsJournal} (ho : Ordered S.config j)
    (hi : Sound A j io) (e : OmsJournalEvent) (he : e.eventType.opensPlace = false := by rfl) :
    (∃ j', j.append S.config e io = (true, j') ∧ Appended S e j j') ∨
      (∃ j', j.append S.config e io = (false, j') ∧ Refused S A e j j') := by
  rcases heq : j.append S.config e io with ⟨ok, j'⟩
  obtain ⟨hr, hk, hl⟩ := append_spec ho he heq
  cases ok with
  | true =>
    have hs : j.writePoisoned = false := by
      cases hp : j.writePoisoned with
      | false => rfl
      | true => simp [append, hp] at heq
    obtain ⟨hen, ha, hd⟩ := hk rfl
    exact .inl ⟨j', rfl, hen, hr, hs, ha, hd⟩
  | false =>
    refine .inr ⟨j', rfl, hl rfl, hr, ?_, fun hp => ?_⟩
    · rcases hi with hf | ⟨hp, hc⟩
      · exact hf
      · have hk := append_clean S.config hp hc e
        simp [heq] at hk
    · simp only [append, hp, if_true, Prod.mk.injEq, true_and] at heq
      exact heq.symm

lemma appendDurablePair_cases {j : OmsJournal} {io' : AppendIo} (ho : Ordered S.config j)
    (hi : Sound A j io) (hi' : Sound A j io') {a b : OmsJournalEvent}
    (ha : a.eventType = .orderIntent) (hb : b.eventType = .placeSendAttempt) :
    (∃ j₁ j', j.appendDurablePair S.config a b io io' = (.committed, j') ∧
      Enters S.config a j j₁ ∧ j.writePoisoned = false ∧ j₁.writePoisoned = false ∧
        Appended S b j₁ j' ∧ b ∈ j'.synced) ∨
      (∃ result j', j.appendDurablePair S.config a b io io' = (result, j') ∧ result ≠ .committed ∧
        (Refused S A a j j' ∨ ∃ j₁, Enters S.config a j j₁ ∧ j.writePoisoned = false ∧
          Refused S A b j₁ j')) := by
  rcases heq : j.appendDurablePair S.config a b io io' with ⟨result, j'⟩
  obtain ⟨hor, hk, hfa⟩ :=
    appendDurablePair_spec ho (by rw [ha]; rfl) (by rw [hb]; rfl) heq
  by_cases hr : result = .committed
  · subst hr
    obtain ⟨hs, haf, hy, j₁, hfs, hs₁, hsc⟩ := hk rfl
    exact .inl ⟨j₁, j', rfl, hfs, hs, hs₁, ⟨hsc, hor, hs₁, haf, fun _ _ => hy⟩, hy⟩
  · have hfl : A.fault := by
      rcases hi with hf | ⟨hp, hl⟩
      · exact hf
      rcases hi' with hf | ⟨-, hl'⟩
      · exact hf
      · have hc := appendDurablePair_clean S.config hp hl hl' (a := a) (b := b)
          (by rw [ha]; rfl) (by rw [hb]; rfl)
        rw [heq] at hc
        exact absurd hc hr
    refine .inr ⟨result, j', rfl, hr, ?_⟩
    rcases hfa hr with hsp | ⟨hs, j₁, hfs, hs₁, hsp⟩
    · refine .inl ⟨hsp, hor, hfl, fun hp => ?_⟩
      simp only [appendDurablePair, hp, if_true, Prod.mk.injEq] at heq
      exact heq.2.symm
    · exact .inr ⟨j₁, hfs, hs, hsp, hor, hfl,
        fun hp => absurd hp (by simp [hs₁])⟩

/-- Whatever an append does, at most its record enters. -/
lemma journaled_of_append {j j' : OmsJournal} (h : Appended S e j j' ∨ Refused S A e j j') :
    ∃ events, Journaled S.config j events j' ∧ (∀ b ∈ events, b = e) ∧
      (j.writePoisoned = true → j'.writePoisoned = true) := by
  rcases h with ha | hr
  · exact ⟨[e], .enter ha.enters (.quiet (Quiet.refl _)), by simp, by simp [ha.sound]⟩
  have ho : j.writePoisoned = true → j'.writePoisoned = true := fun hp =>
    hr.poisoned hp ▸ hp
  rcases hr.spoils with hq | ⟨he, -⟩
  · exact ⟨[], .quiet hq, by simp, ho⟩
  · exact ⟨[e], .enter he (.quiet (Quiet.refl _)), by simp, ho⟩

/-- The two ends of `AppendOrBlockLocked`. -/
lemma appendOrBlock_cases (ho : Ordered S.config s.journal)
    (hi : Sound A s.journal io) (e : OmsJournalEvent) (code : String)
    (he : e.eventType.opensPlace = false := by rfl) :
    (∃ j', s.appendOrBlock S e code io = (true, s.setJournal j') ∧ Appended S e s.journal j') ∨
      (∃ j', s.appendOrBlock S e code io = (false, (s.setJournal j').block code) ∧
        Refused S A e s.journal j') := by
  rcases append_cases ho hi e he with ⟨j', heq, h⟩ | ⟨j', heq, h⟩
  · exact .inl ⟨j', by simp [System.appendOrBlock, heq], h⟩
  · exact .inr ⟨j', by simp [System.appendOrBlock, heq], h⟩

/-! ### Putting a stretch of work together -/

lemma OmsJournalEvent.Belongs.inherits {base : RequestRecord} (h : e.Belongs base)
    (ows : UMap Int ExecutionOrderOwner) :
    Inherits base ows (applyCommandOwner ows e) := by
  have ha : e.owner.agentId = base.context.agentId :=
    congrArg CommandIdentity.agentId h.identity
  intro orderId owner ho
  rcases lookup_applyCommandOwner ho with ho | rfl
  · exact .inl ho
  · exact .inr ha

variable {key : String} {base record : RequestRecord} {start start₁ : RequestRecord → Prop}
  {stage stage₁ : Stage} {reasons : String → Bool} {final : RequestRecord → Prop}
  {events : List OmsJournalEvent}

/-- The command's record is stored and nothing more is written. -/
lemma Writes.nil (hj : s'.journal = s.journal) (ho : Ordered S.config s.journal)
    (hr : s'.requests = s.requests.insert key record) (hi : record.identity = base.identity)
    (hc : record.venueCorrelationId = base.venueCorrelationId) (ht : record.Fits stage)
    (hw : s'.orderOwners = s.orderOwners)
    (ha : A.fault ∨ (s.journal.writePoisoned = false ∧
      ∀ folded, start folded → Agrees record folded))
    (hf : s'.fenceView = s.fenceView) : Writes S A key base start stage s [] record s' where
  journaled := hj ▸ .quiet (Quiet.refl _)
  ordered := hj ▸ ho
  poisoned hp := ⟨rfl, hj ▸ hp⟩
  requests := hr
  identity := hi
  belongs := by simp
  advances := ⟨stage, rfl, .inr ht⟩
  correlation _ := hc
  owners := .inr (.inr hw)
  ownership := hw ▸ Inherits.refl base _
  agrees := hj ▸ ha
  projected := by simp
  fences := hf

lemma Writes.cons (h : Writes S A key base start₁ stage₁ s₁ events record s')
    (he : Enters S.config e s.journal s₁.journal)
    (hs : s.journal.writePoisoned = false) (hr : s₁.requests = s.requests)
    (ho : s₁.orderOwners = applyCommandOwner s.orderOwners e)
    (hfs : s₁.fenceView = s.fenceView) (hb : e.Belongs base)
    (hx : stage.next e = some stage₁)
    (hst : ∀ folded, start folded → start₁ (folded.absorb e))
    (hpr : e.eventType.isProjectionFailure = false := by rfl) :
    Writes S A key base start stage s (e :: events) record s' where
  journaled := .enter he h.journaled
  ordered := h.ordered
  poisoned hp := absurd hp (by simp [hs])
  requests := hr ▸ h.requests
  identity := h.identity
  belongs := List.forall_mem_cons.mpr ⟨hb, h.belongs⟩
  advances := by
    obtain ⟨af, ha, ht⟩ := h.advances
    refine ⟨af, ?_, ht⟩
    simpa [advance, hx] using ha
  correlation := h.correlation
  owners := h.owners.imp_right fun h => h.imp_right fun h => by
    rw [h, ho, List.foldl_cons]
  ownership := (hb.inherits _).trans (ho ▸ h.ownership)
  agrees := h.agrees.imp_right fun h => ⟨h.1, fun folded hf => h.2 _ (hst folded hf)⟩
  projected := List.forall_mem_cons.mpr ⟨by simp [hpr], h.projected⟩
  fences := h.fences.trans hfs

/-- The intent and the send attempt of a command. -/
lemma Writes.opening {intent attempt : OmsJournalEvent} {j₁ : OmsJournal} {stage₂ : Stage}
    (hi : Enters S.config intent s.journal j₁) (hs : s.journal.writePoisoned = false)
    (ha : Appended S attempt j₁ s'.journal) (hr : s'.requests = s.requests.insert key base)
    (hin : base.inert) (hv : s'.orderOwners = s.orderOwners ∧ s'.fenceView = s.fenceView)
    (hb : intent.Belongs base ∧ attempt.Belongs base)
    (hx : stage.next intent = some stage₁ ∧ stage₁.next attempt = some stage₂)
    (ho : ∀ owners, applyCommandOwner owners intent = owners ∧
      applyCommandOwner owners attempt = owners)
    (hp : intent.eventType.isProjectionFailure = false ∧
      attempt.eventType.isProjectionFailure = false)
    (hg : Agrees base ((absorb {} intent).absorb attempt)) :
    Writes S A key base (· = {}) stage s [intent, attempt] base s' := by
  have hn : Writes S A key base (· = (absorb {} intent).absorb attempt) stage₂
      (s.setJournal s'.journal) [] base s' :=
    .nil rfl ha.ordered hr rfl rfl (inert.fits hin _) hv.1
      (.inr ⟨ha.soundAfter, by rintro _ rfl; exact hg⟩) hv.2
  have ht : Writes S A key base (· = absorb {} intent) stage₁ (s.setJournal j₁) [attempt] base s' :=
    hn.cons ha.enters ha.sound rfl (ho _).2.symm rfl hb.2 hx.2 (by rintro _ rfl; rfl) hp.2
  exact ht.cons hi hs rfl (ho _).1.symm rfl hb.1 hx.1 (by rintro _ rfl; rfl) hp.1

/-- A record that did not get through, after which memory holds what no resolver touches. -/
lemma Writes.spoiled (hr : Refused S A e s.journal s'.journal)
    (hrq : s'.requests = s.requests.insert key record)
    (ho : Inherits base s.orderOwners s'.orderOwners) (hd : record.identity = base.identity)
    (hi : record.inert) (hb : e.Belongs base)
    (hx : (stage.next e).isSome = true)
    (hpr : e.eventType.isProjectionFailure = true → record.status = .uncertain)
    (hf : s'.fenceView = s.fenceView) :
    ∃ events, Writes S A key base start stage s events record s' ∧
      (events = [] ∨ events = [e] ∧ s'.journal.writePoisoned = true) := by
  have hc : record.placeResolvable ∨ record.cancelResolvable →
      record.venueCorrelationId = base.venueCorrelationId := fun h => absurd h (not_or.mpr hi)
  obtain ⟨af, ha⟩ := Option.isSome_iff_exists.mp hx
  rcases hr.spoils with hq | ⟨he, hp'⟩
  · exact ⟨[], ⟨.quiet hq, hr.ordered, fun hp => ⟨rfl, hr.poisoned hp ▸ hp⟩, hrq, hd, by simp,
      ⟨stage, rfl, .inr (hi.fits _)⟩, hc, .inl hr.fault, ho, .inl hr.fault,
      by simp, hf⟩, .inl rfl⟩
  · refine ⟨[e], ⟨.enter he (.quiet (Quiet.refl _)), hr.ordered, fun hp => ?_, hrq, hd,
      by simpa using hb, ⟨af, by simp [advance, ha], .inr (hi.fits _)⟩,
      hc, .inl hr.fault, ho, .inl hr.fault, by simpa using hpr, hf⟩,
      .inr ⟨rfl, hp'⟩⟩
    -- a poisoned journal takes no record
    obtain ⟨_, _, hj, hj', -⟩ := he.inserted
    rw [hr.poisoned hp, hj] at hj'
    simpa using congrArg List.length hj'

/-- One more record in front of a stretch that closes its command. -/
lemma Closes.cons (h : Closes S A key base start₁ stage₁ reasons final s₁ s')
    (he : Enters S.config e s.journal s₁.journal)
    (hd : s.journal.writePoisoned = false) (hr : s₁.requests = s.requests)
    (ho : s₁.orderOwners = applyCommandOwner s.orderOwners e)
    (hbe : e.Belongs base) (hx : stage.next e = some stage₁)
    (ht : ∀ folded, start folded → start₁ (folded.absorb e))
    (hp : e.eventType.isProjectionFailure = false := by rfl)
    (hi : Tracks key s s₁ := by exact Tracks.of_eq rfl)
    (hsn : e.eventType.isSendAttempt = true → s.mutationBlocked = false ∧
      (s'.journal.writePoisoned = true ∨ e.sendAttempt ∈ s'.placeSendAttempts) :=
      by rintro ⟨⟩)
    (hv : s₁.fenceView = s.fenceView ∧ s₁.flightView = s.flightView := by exact ⟨rfl, rfl⟩)
    (hl : s₁.mutationBlocked = s.mutationBlocked ∧
      s₁.mutationBlockReason = s.mutationBlockReason := by exact ⟨rfl, rfl⟩) :
    Closes S A key base start stage reasons final s s' := by
  obtain ⟨events, record, hw, hs, hf, hbs, hfl, hin⟩ := h
  refine ⟨e :: events, record, hw.cons he hd hr ho hv.1 hbe hx ht hp, hs, hf,
    ?_, hfl.trans hv.2, (hin.of_tracks hi fun hb => hl.1 ▸ hb).cons hsn⟩
  rwa [Blocks, hl.1, hl.2] at hbs

lemma Closes.written (ha : Appended S e s.journal s'.journal)
    (hr : s'.requests = s.requests.insert key record)
    (ho : A.reuse ∨ s'.orderOwners = applyCommandOwner s.orderOwners e)
    (hin : Inherits base s.orderOwners s'.orderOwners)
    (hv : s'.fenceView = s.fenceView ∧ s'.flightView = s.flightView) (hb : e.Belongs base)
    (hd : record.identity = base.identity)
    (hc : record.venueCorrelationId = base.venueCorrelationId) (hx : stage.next e = some stage₁)
    (ht : record.Fits stage₁) (hg : ∀ folded, start folded → Agrees record (folded.absorb e))
    (hsc : record.unsettled → s'.mutationBlocked = true) (hf : final record)
    (hbs : Blocks reasons s s')
    (hpr : e.eventType.isProjectionFailure = true → record.status = .uncertain :=
      by first | exact fun _ => rfl | rintro ⟨⟩)
    (hi : s'.sendIndex = s.sendIndex := by rfl)
    (hs : e.eventType.isSendAttempt = false := by rfl) :
    Closes S A key base start stage reasons final s s' := by
  refine ⟨[e], record, ?_, hsc, hf, hbs, hv.2,
    (Tracks.of_eq hi).indexes (.inr (by simp [hs])) (by simp [hs])⟩
  exact
    { journaled := .enter ha.enters (.quiet (Quiet.refl _))
      ordered := ha.ordered
      poisoned := fun hp => absurd hp (by simp [ha.sound])
      requests := hr
      identity := hd
      belongs := by simpa using hb
      advances := ⟨stage₁, by simp [advance, hx], .inr ht⟩
      correlation := fun _ => hc
      owners := .inr ho
      ownership := hin
      agrees := .inr ⟨ha.soundAfter, hg⟩
      projected := by simpa using hpr
      fences := hv.1 }

/-- The same, with the owners as recovery would leave them. -/
lemma Closes.settled (hap : Appended S e s.journal s'.journal)
    (hr : s'.requests = s.requests.insert key record)
    (ho : s'.orderOwners = applyCommandOwner s.orderOwners e) (hb : e.Belongs base)
    (hd : record.identity = base.identity) (hx : stage.next e = some stage₁)
    (ht : record.Fits stage₁) (ha : ∀ folded, start folded → Agrees record (folded.absorb e))
    (hs : record.unsettled → s'.mutationBlocked = true) (hf : final record)
    (hbs : Blocks reasons s s' :=
      by first | exact .inl ⟨rfl, rfl⟩ | exact .inr ⟨rfl, rfl⟩)
    (hp : e.eventType.isProjectionFailure = true → record.status = .uncertain :=
      by first | exact fun _ => rfl | rintro ⟨⟩)
    (hi : s'.sendIndex = s.sendIndex := by rfl)
    (hsn : e.eventType.isSendAttempt = false := by rfl)
    (hv : s'.fenceView = s.fenceView ∧ s'.flightView = s.flightView := by exact ⟨rfl, rfl⟩)
    (hc : record.venueCorrelationId = base.venueCorrelationId := by rfl) :
    Closes S A key base start stage reasons final s s' :=
  Closes.written hap hr (.inr ho) (ho ▸ hb.inherits _) hv hb hd
    hc hx ht ha hs hf hbs hp hi hsn

/-- A stretch whose last record does not get through. -/
lemma Closes.spoiled (hr : Refused S A e s.journal s'.journal)
    (hq : s'.requests = s.requests.insert key record)
    (ho : Inherits base s.orderOwners s'.orderOwners)
    (hb : e.Belongs base) (hd : record.identity = base.identity) (hin : record.inert)
    (hx : (stage.next e).isSome = true) (hf : final record) (hbs : Blocks reasons s s' :=
      by first | exact .inl ⟨rfl, rfl⟩ | exact .inr ⟨rfl, rfl⟩)
    (hpr : e.eventType.isProjectionFailure = true → record.status = .uncertain :=
      by first | exact fun _ => rfl | rintro ⟨⟩)
    (hi : s'.sendIndex = s.sendIndex := by rfl)
    (hsn : e.eventType.isSendAttempt = true → s.mutationBlocked = false := by rintro ⟨⟩)
    (hv : s'.fenceView = s.fenceView ∧ s'.flightView = s.flightView := by exact ⟨rfl, rfl⟩)
    (hs : record.unsettled → s'.mutationBlocked = true := by exact fun _ => rfl) :
    Closes S A key base start stage reasons final s s' := by
  obtain ⟨events, hw, he⟩ :=
    Writes.spoiled hr hq ho hd hin hb hx hpr hv.1
  refine ⟨events, record, hw, hs, hf, hbs, hv.2, ?_⟩
  rcases he with rfl | ⟨rfl, hp⟩
  · exact (Tracks.of_eq hi).indexes (.inr (by simp)) (by simp)
  · exact (Tracks.of_eq hi).indexes (.inl hp) (by simpa using hsn)

/-- A failed append that left nothing behind, in front of a stretch that closes its command. -/
lemma Closes.quiet (h : Closes S A key base start stage reasons final s₁ s')
    (hq : Quiet s.journal s₁.journal)
    (hp : s.journal.writePoisoned = true → s₁.journal.writePoisoned = true) (hf : A.fault)
    (hrq : s₁.requests = s.requests) (ho : s₁.orderOwners = s.orderOwners)
    (hv : s₁.fenceView = s.fenceView ∧ s₁.flightView = s.flightView)
    (hbs : Blocks reasons s s₁) (hi : s₁.sendIndex = s.sendIndex := by rfl) :
    Closes S A key base start stage reasons final s s' := by
  obtain ⟨events, record, hw, hs, hfn, hbs', hfl, hin⟩ := h
  refine ⟨events, record, ⟨hq.journaled hw.journaled, hw.ordered, fun h => hw.poisoned (hp h),
    hrq ▸ hw.requests, hw.identity, hw.belongs, hw.advances, hw.correlation, .inl hf,
    ho ▸ hw.ownership, .inl hf, hw.projected, hw.fences.trans hv.1⟩, hs,
    hfn, ?_, hfl.trans hv.2, hin.of_tracks (Tracks.of_eq hi) fun hb => ?_⟩
  rcases hbs' with ⟨hb, hr⟩ | hb
  · rw [Blocks, hb, hr]
    exact hbs
  · exact .inr hb
  · rcases hbs with ⟨hm, -⟩ | ⟨hl, -⟩
    · exact hm ▸ hb
    · simp [hb] at hl

lemma Closes.kept (h : Closes S A key base start stage reasons final s s') :
    s.placeSendAttempts ⊆ s'.placeSendAttempts := by
  obtain ⟨_, _, _, _, _, _, _, hi⟩ := h
  exact hi.kept

/-- The command may enter the index of send attempts along the way. -/
lemma Closes.of_view (h : Closes S A key base start stage reasons final s₁ s')
    (hv : s₁.view = s.view) (hi : Tracks key s s₁) :
    Closes S A key base start stage reasons final s s' := by
  obtain ⟨events, record, hw, hs, hf, hbs, hl, hin⟩ := h
  have hj : s₁.journal = s.journal := congrArg View.journal hv
  have hq : s₁.requests = s.requests := congrArg View.requests hv
  have ho : s₁.orderOwners = s.orderOwners := congrArg View.orderOwners hv
  have hb : s₁.mutationBlocked = s.mutationBlocked := congrArg View.mutationBlocked hv
  have hr : s₁.mutationBlockReason = s.mutationBlockReason :=
    congrArg View.mutationBlockReason hv
  refine ⟨events, record, ⟨hj ▸ hw.journaled, hw.ordered, hj ▸ hw.poisoned, hq ▸ hw.requests,
    hw.identity, hw.belongs, hw.advances, hw.correlation, ho ▸ hw.owners, ho ▸ hw.ownership,
    hw.agrees, hw.projected, hw.fences.trans (congrArg View.fences hv)⟩, hs, hf, ?_,
    hl.trans (congrArg View.flight hv), hin.of_tracks hi fun h => hb ▸ h⟩
  rwa [Blocks, hb, hr] at hbs

lemma Closes.of_putRecord (h : Closes S A key base start stage reasons final s₁ s')
    (hv : s₁.view = (s.putRecord key record).view) (hd : Tracks key s s₁) :
    Closes S A key base start stage reasons final s s' := by
  have hs : Closes S A key base start stage reasons final (s.putRecord key record) s' :=
    h.of_view hv hd
  obtain ⟨events, record', hw, hc, hf, hb, hl, hi⟩ := hs
  refine ⟨events, record', ⟨hw.journaled, hw.ordered, hw.poisoned, ?_, hw.identity, hw.belongs,
    hw.advances, hw.correlation, hw.owners, hw.ownership, hw.agrees, hw.projected, hw.fences⟩,
    hc, hf, hb, hl, ⟨hi.kept, hi.keys, hi.attempts, hi.admitted⟩⟩
  rw [hw.requests]
  exact Finmap.insert_insert _

/-! ### The moves -/

/-- While admission is closed for another reason than recovery, a new command is rejected. -/
def System.Spared (s : System) (record : RequestRecord) : Prop :=
  s.mutationBlocked = true → s.mutationBlockReason ≠ recoveryReconcileRequired →
    record.status = .rejected

/-- What one stretch of work under the mutex does. -/
inductive Move (S : Service) (A : Allowance) : System → System → Prop
  /-- A command is recorded and settled without a venue call. -/
  | opened {s s' : System} {base : RequestRecord}
      (fresh : s.requests.lookup base.context.requestKey = none)
      (identified : base.context.identified = true)
      (closes : Closes S A base.context.requestKey base (· = {}) .fresh isLasting s.Spared s s') :
      Move S A s s'
  /-- A command is recorded and goes to the venue. -/
  | dispatched {s s' : System} {dispatch : Dispatch} {events : List OmsJournalEvent}
      (fresh : s.requests.lookup dispatch.requestKey = none) (wellFormed : dispatch.WellFormed)
      (writes : Writes S A dispatch.requestKey dispatch.pending (· = {}) .fresh s events
        dispatch.pending s')
      (attempted : advance .fresh events = some (.attempted dispatch.operation))
      (durable : S.config.syncCritical = true → ∃ e ∈ s'.journal.synced,
        e.eventType = dispatch.sendAttempt ∧ e.Belongs dispatch.pending)
      (flight : s'.flightView =
        (((s.setJournal s'.journal).reserve dispatch).callVenue dispatch).flightView)
      (block : s'.mutationBlocked = s.mutationBlocked ∧
        s'.mutationBlockReason = s.mutationBlockReason)
      (admitted : s.mutationBlocked = true →
        s.mutationBlockReason = recoveryReconcileRequired ∧ dispatch.operation = .cancel)
      (exclusive : s.Exclusive dispatch) (indexes : Indexes dispatch.requestKey s events s')
      (allowed : A.call dispatch.operation) : Move S A s s'
  /-- A venue call has returned. -/
  | returned {s s' : System} {dispatch : Dispatch} (waiting : dispatch ∈ s.dispatches)
      (closes : Closes S A dispatch.requestKey dispatch.pending (Stems dispatch.pending)
        (.attempted dispatch.operation) notReconnect (fun _ => True) (s.callReturned dispatch)
        s') :
      Move S A s s'
  /-- A command in doubt is resolved. -/
  | resolved {s s' : System} {key : String} {record : RequestRecord}
      (known : s.requests.lookup key = some record) (live : ¬ record.inert)
      (closes : ∀ stage, stage.resolvable record.operation = true →
        Closes S A key record (Stems record) stage (fun _ => false)
          (fun record => record.status ≠ .uncertain) s s') :
      Move S A s s'
  /-- The record of a resolution, or one that concerns no command, does not get through. -/
  | refused {s : System} {e : OmsJournalEvent} {j' : OmsJournal} {reason : String}
      (refused : Refused S A e s.journal j') (lasting : isLasting reason = true)
      (resolution : e.isCommand = true → ∃ record, s.requests.lookup e.requestKey = some record ∧
        ¬ record.inert ∧ e.Belongs record ∧ resolvedBy record.operation e.eventType = true)
      (unfenced : e.eventType.isFence = false)
      (lifting : e.eventType = .executionProjectionResolved →
        isProjectionFailureReason s.mutationBlockReason = true)
      (authored : e.Authored) : Move S A s ((s.setJournal j').block reason)
  /-- A fence is entered or released. -/
  | fenced {s s' : System} {events : List OmsJournalEvent} (allowed : A.fence)
      (journaled : Journaled S.config s.journal events s'.journal)
      (ordered : Ordered S.config s'.journal)
      (sound : A.fault ∨ s'.journal.writePoisoned = false)
      (fences : ∀ e ∈ events, e.FenceRecord)
      (requests : s'.requests = s.requests) (owners : s'.orderOwners = s.orderOwners)
      (flight : s'.flightView = s.flightView) (blocks : Blocks isLasting s s')
      (index : s'.sendIndex = s.sendIndex)
      (poisoned : s.journal.writePoisoned = true → s'.journal.writePoisoned = true)
      (halting : ∀ e ∈ events, e.eventType = .paperTerminalFence →
        s'.journal.writePoisoned = true ∨ (s'.mutationBlocked = true ∧
          isLasting s'.mutationBlockReason = true ∧ s'.venueDispatchesInFlight = 0)) :
      Move S A s s'
  /-- The ownership of an order ends with a record. -/
  | ended {s : System} {e : OmsJournalEvent} {j' : OmsJournal} {orderId : Int}
      (appended : Appended S e s.journal j') (eventType : e.eventType = .orderOwnerReconciledTerminal)
      (order : e.orderId = orderId) (named : e.commandId ≠ "" ∧ e.agentId ≠ "") :
      Move S A s ((s.setJournal j').eraseOwner orderId)
  /-- The ownership of an order ends without one. -/
  | forgot {s : System} (allowed : A.forget) (orderId : Int) : Move S A s (s.eraseOwner orderId)
  /-- The block of a failed projection is lifted. -/
  | lifted {s : System} {e : OmsJournalEvent} {j' : OmsJournal} (allowed : A.lift s)
      (appended : Appended S e s.journal j') (eventType : e.eventType = .executionProjectionResolved)
      (blocked : s.mutationBlocked = true)
      (reason : isProjectionFailureReason s.mutationBlockReason = true) (authored : e.Authored) :
      Move S A s { s.setJournal j' with
        requests := s.requests.mapValues resolveProjection }.unblock
  /-- A cancel eligibility read starts or ends. -/
  | preflight {s : System} {inFlight : Finset Int} {preflights : List CancelOrderCommand}
      (admitted : ∀ command ∈ preflights, command ∈ s.preflights ∨
        (command.context.identified = true ∧ cancelRequestHash S command ≠ "")) :
      Move S A s { s with cancelPreflightsInFlight := inFlight, preflights := preflights }
  /-- A broker reconnect starts. -/
  | reconnecting {s : System} (free : s.mutationBlocked = false)
      (quiet : s.venueDispatchesInFlight = 0) : Move S A s (s.block System.brokerReconnectPending)
  /-- A broker reconnect ends. -/
  | reconnected {s : System} (blocked : s.mutationBlocked = true)
      (reason : s.mutationBlockReason = System.brokerReconnectPending)
      (allowed : A.reconnect) : Move S A s s.unblock
  /-- The recovery block is lifted because no command is in doubt. -/
  | released {s : System} (certain : ¬ s.uncertainRemains)
      (reason : s.mutationBlockReason = recoveryReconcileRequired) : Move S A s s.unblock
  /-- Waiting records are written. -/
  | flushed {s : System} {j' : OmsJournal} (quiet : Quiet s.journal j')
      (ordered : Ordered S.config j') (sound : A.fault ∨ j'.writePoisoned = false)
      (poisoned : s.journal.writePoisoned = true → j'.writePoisoned = true) :
      Move S A s (s.setJournal j')
  /-- The process, or a new one after a crash, recovers from the journal. -/
  | recovered {s s' : System}
      (source : s'.journal.records = s.journal.records ∧ s.dispatches = [] ∨
        s'.journal.records = s.journal.synced)
      (synced : s'.journal.synced = s'.journal.records) (ordered : Ordered S.config s'.journal)
      (sound : s'.journal.writePoisoned = false)
      (memory : s'.toCoordinator = Coordinator.recovered s'.journal.records)
      (flight : s'.flightView = ⟨[], 0, s.venueCalls, s'.preflights, ∅⟩)
      (preflights : s'.preflights ⊆ s.preflights)
      (acknowledged : s'.acknowledged = s.acknowledged) (allowed : A.recover) : Move S A s s'
  /-- The journal cannot be read, and the process stays blocked. -/
  | unrecovered {s s' : System} {reason : String} (fault : A.fault)
      (source : Quiet s.journal s'.journal ∧ s.dispatches = [] ∨
        Quiet s.journal.afterCrash s'.journal)
      (ordered : Ordered S.config s'.journal) (lasting : isLasting reason = true)
      (memory : s'.toCoordinator = Coordinator.block {} reason)
      (flight : s'.flightView = ⟨[], 0, s.venueCalls, s'.preflights, ∅⟩)
      (preflights : s'.preflights ⊆ s.preflights)
      (acknowledged : s'.acknowledged = s.acknowledged) (allowed : A.recover) : Move S A s s'

/-- A stretch of work that ends with a venue call. -/
lemma Move.of_callVenue {d : Dispatch} (fresh : s.requests.lookup d.requestKey = none)
    (wellFormed : d.WellFormed)
    (ws : Writes S A d.requestKey d.pending (· = {}) .fresh s events
      d.pending s₁)
    (atd : advance .fresh events = some (.attempted d.operation))
    (durable : S.config.syncCritical = true → ∃ e ∈ s₁.journal.synced,
      e.eventType = d.sendAttempt ∧ e.Belongs d.pending)
    (fl : s₁.flightView = s.flightView)
    (block : s₁.mutationBlocked = s.mutationBlocked ∧
      s₁.mutationBlockReason = s.mutationBlockReason)
    (admitted : s.mutationBlocked = true →
      s.mutationBlockReason = recoveryReconcileRequired ∧ d.operation = .cancel)
    (exclusive : s.Exclusive d) (hv : s'.view = s₁.view)
    (hi : Indexes d.requestKey s events s') (al : A.call d.operation) :
    Move S A s ((s'.reserve d).callVenue d) := by
  have hj : s'.journal = s₁.journal := congrArg View.journal hv
  have hf : s'.flightView = s₁.flightView := congrArg View.flight hv
  have hd := congrArg FlightView.dispatches (hf.trans fl)
  have hcn := congrArg FlightView.venueDispatchesInFlight (hf.trans fl)
  have hc := congrArg FlightView.venueCalls (hf.trans fl)
  have hp := congrArg FlightView.preflights (hf.trans fl)
  have hs := congrArg FlightView.riskMutationDispatches (hf.trans fl)
  simp only [System.flightView] at hd hcn hc hp hs
  have ho : ((s'.reserve d).callVenue d).orderOwners = s₁.orderOwners :=
    congrArg View.orderOwners hv
  have hw : Writes S A d.requestKey d.pending (· = {}) .fresh s events
      d.pending ((s'.reserve d).callVenue d) :=
    ⟨hj ▸ ws.journaled, hj ▸ ws.ordered, hj ▸ ws.poisoned,
      (congrArg View.requests hv).trans ws.requests, ws.identity, ws.belongs,
      hj ▸ ws.advances, ws.correlation, ho.symm ▸ ws.owners,
      ho.symm ▸ ws.ownership, hj ▸ ws.agrees, ws.projected,
      (congrArg View.fences hv).trans ws.fences⟩
  refine .dispatched fresh wellFormed hw atd (hj ▸ durable) ?_
    ⟨(congrArg View.mutationBlocked hv).trans block.1,
      (congrArg View.mutationBlockReason hv).trans block.2⟩ admitted exclusive
    ⟨hi.kept, hi.keys, hi.attempts, hi.admitted⟩ al
  simp [System.flightView, System.callVenue, System.reserve, System.setJournal, hd, hcn, hc, hp, hs]

abbrev Moves (S : Service) (A : Allowance) : System → System → Prop :=
  Relation.ReflTransGen (Move S A)

/-- The part of coherence that concerns the memory. -/
structure Rooted (S : Service) (s : System) : Prop where
  ordered : Ordered S.config s.journal
  keyed : ∀ key record, s.requests.lookup key = some record →
    record.context.requestKey = key ∧ record.context.identified = true
  owned : ∀ orderId owner, s.orderOwners.lookup orderId = some owner → owner.agentId ≠ ""
  named : ∀ e ∈ s.journal.records, e.isCommand = true → e.traceId ≠ ""
  indexed : ∀ key ∈ s.placeSendAttemptKeys, (s.requests.lookup key).isSome = true

/-- What ties the parts of a running service together. -/
structure Coherent (S : Service) (s : System) : Prop extends Rooted S s where
  inFlight : s.venueDispatchesInFlight = s.dispatches.length
  pending : ∀ dispatch ∈ s.dispatches,
    s.requests.lookup dispatch.requestKey = some dispatch.pending ∧ dispatch.WellFormed
  distinct : (s.dispatches.map Dispatch.requestKey).Nodup
  preflights : ∀ command ∈ s.preflights,
    command.context.identified = true ∧ cancelRequestHash S command ≠ ""

end Hepta
