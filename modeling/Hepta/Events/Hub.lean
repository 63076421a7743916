import Hepta.Library.Cursor
import Hepta.Library.Map
import Hepta.Library.Text
import Hepta.Execution.Contract

/-!
# The event hub

`ExecutionEventHub` numbers the events of one stream and keeps, for each owner, a bounded queue of
its events and the number through which events were dropped. A reader names an owner and a cursor;
it receives the next event, or is told of a gap. The sequence counter is a natural number: that of
the source does not come round.
-/

namespace Hepta

open List Cursor

structure ExecutionServiceIdentity where
  serviceEpoch : String := ""
  serviceFencingGeneration : Nat := 0
  deriving DecidableEq, Repr

structure EventOwner where
  executionDomain : String := ""
  agentId : String := ""
  sessionId : String := ""
  deriving DecidableEq, Repr

structure ExecutionEvent where
  streamEpoch : String := ""
  sequence : Nat := 0
  upstreamServiceEpoch : String := ""
  upstreamServiceFencingGeneration : Nat := 0
  upstreamStreamEpoch : String := ""
  upstreamSequence : Nat := 0
  timestampMs : Nat := 0
  owner : EventOwner := {}
  type : String := ""
  venue : String := ""
  orderId : Int := -1
  instrument : String := ""
  side : String := ""
  status : String := ""
  reasonCode : String := ""
  filledQuantity : Double := .zero
  remainingQuantity : Double := .zero
  averageFillPrice : Double := .zero
  deriving DecidableEq, Repr

inductive ExecutionEventReadStatus where
  | event
  | timeout
  | gap
  | epochChanged
  | invalidOwner
  | serviceIdentity
  | serviceIdentityMismatch
  | serviceNotReady
  | serviceStopping
  deriving DecidableEq, Repr

structure ExecutionEventReadResult where
  status : ExecutionEventReadStatus := .timeout
  serviceIdentity : ExecutionServiceIdentity := {}
  streamEpoch : String := ""
  droppedThroughSequence : Nat := 0
  latestSequence : Nat := 0
  reasonCode : String := ""
  event : ExecutionEvent := {}
  deriving DecidableEq, Repr

def EventOwner.named (owner : EventOwner) : Bool :=
  owner.executionDomain ≠ "" && owner.agentId ≠ "" && owner.sessionId ≠ ""

def EventOwner.queueKey (owner : EventOwner) : String :=
  owner.executionDomain.sized ++ (owner.agentId.sized ++ owner.sessionId)

structure ExecutionEventHub where
  capacityPerAgent : Nat
  streamEpoch : String
  nextSequence : Nat := 1
  queues : UMap String (List ExecutionEvent) := ∅
  droppedThrough : UMap String Nat := ∅

namespace ExecutionEventHub

/-- The hub as it is constructed. A hub without a given epoch makes one up. -/
def create (capacityPerAgent : Nat) (streamEpoch newStreamEpoch : String) : ExecutionEventHub :=
  { capacityPerAgent := max 1 capacityPerAgent
    streamEpoch := if streamEpoch = "" then newStreamEpoch else streamEpoch }

def queue (h : ExecutionEventHub) (owner : EventOwner) : List ExecutionEvent :=
  (h.queues.lookup owner.queueKey).getD []

def dropped (h : ExecutionEventHub) (owner : EventOwner) : Nat :=
  (h.droppedThrough.lookup owner.queueKey).getD 0

/-- The event as `Publish` puts it into its queue. -/
def stamp (h : ExecutionEventHub) (event : ExecutionEvent) (nowMs : Nat) : ExecutionEvent :=
  { event with
    upstreamStreamEpoch :=
      if event.upstreamStreamEpoch = "" ∧ event.streamEpoch ≠ "" then event.streamEpoch
      else event.upstreamStreamEpoch
    upstreamSequence :=
      if event.upstreamSequence = 0 ∧ event.sequence ≠ 0 then event.sequence
      else event.upstreamSequence
    sequence := h.nextSequence
    streamEpoch := h.streamEpoch
    timestampMs := if event.timestampMs = 0 then nowMs else event.timestampMs }

def publish (h : ExecutionEventHub) (event : ExecutionEvent) (nowMs : Nat) :
    ExecutionEventHub × Nat :=
  if !event.owner.named then (h, 0)
  else
    let stored := h.stamp event nowMs
    let key := event.owner.queueKey
    let queue := h.queue event.owner ++ [stored]
    let trimmed := trim ExecutionEvent.sequence h.capacityPerAgent queue (h.dropped event.owner)
    ({ h with
        nextSequence := h.nextSequence + 1
        queues := h.queues.insert key trimmed.1
        droppedThrough :=
          if h.capacityPerAgent < queue.length then h.droppedThrough.insert key trimmed.2
          else h.droppedThrough },
      stored.sequence)

/-- `ReadNext`, at the moment when it is answered: a read that waits looks again after every
publication until it finds an event or a gap, or its time is over. -/
def readNext (h : ExecutionEventHub) (owner : EventOwner) (expectedEpoch : String)
    (afterSequence : Nat) : ExecutionEventReadResult :=
  let result : ExecutionEventReadResult := { streamEpoch := h.streamEpoch }
  if !owner.named then
    { result with status := .invalidOwner, reasonCode := "EXECUTION_EVENT_OWNER_REQUIRED" }
  else if expectedEpoch ≠ "" ∧ expectedEpoch ≠ h.streamEpoch then
    { result with status := .epochChanged, reasonCode := "EXECUTION_EVENT_STREAM_EPOCH_CHANGED" }
  else
    let result :=
      { result with
        droppedThroughSequence := h.dropped owner
        latestSequence := h.nextSequence - 1 }
    if afterSequence < h.dropped owner then
      { result with status := .gap, reasonCode := "EXECUTION_EVENT_GAP" }
    else match (h.queue owner).find? fun event => afterSequence < event.sequence with
      | some event => { result with status := .event, event }
      | none => { result with status := .timeout, reasonCode := "EXECUTION_EVENT_TIMEOUT" }

/-! ### What a hub holds -/

variable {h : ExecutionEventHub} {published : List ExecutionEvent} {owner owner' : EventOwner}
  {event : ExecutionEvent} {nowMs : Nat}

lemma queueKey_injective (h : owner.queueKey = owner'.queueKey) : owner = owner' := by
  obtain ⟨hd, hr⟩ := String.sized_append_inj h
  obtain ⟨ha, hs⟩ := String.sized_append_inj hr
  cases owner
  cases owner'
  simp_all

def own (owner : EventOwner) (published : List ExecutionEvent) : List ExecutionEvent :=
  published.filter fun event => event.owner = owner

/-- A hub holds the last of the events that were published. -/
structure Holds (h : ExecutionEventHub) (published : List ExecutionEvent) : Prop where
  numbered : Numbered ExecutionEvent.sequence published
  positive : ∀ event ∈ published, 0 < event.sequence
  next : ∀ event ∈ published, event.sequence < h.nextSequence
  counter : 0 < h.nextSequence
  dropped : ∀ owner, h.dropped owner < h.nextSequence
  queue : ∀ owner, h.queue owner =
    (own owner published).filter fun event => h.dropped owner < event.sequence

/-- The events that a publication adds. -/
def accepted (h : ExecutionEventHub) (event : ExecutionEvent) (nowMs : Nat) : List ExecutionEvent :=
  if event.owner.named then [h.stamp event nowMs] else []

lemma Holds.own_numbered (h : h.Holds published) (owner : EventOwner) :
    Numbered ExecutionEvent.sequence (own owner published) :=
  h.numbered.sublist filter_sublist

lemma own_append (owner : EventOwner) (front back : List ExecutionEvent) :
    own owner (front ++ back) = own owner front ++ own owner back :=
  filter_append ..

lemma Holds.queue_numbered (hh : h.Holds published) (owner : EventOwner) (event : ExecutionEvent)
    (nowMs : Nat) : Numbered ExecutionEvent.sequence (h.queue owner ++ [h.stamp event nowMs]) := by
  rw [hh.queue]
  apply Numbered.append_singleton ((hh.own_numbered owner).sublist filter_sublist)
  intro b hb
  exact hh.next b (mem_of_mem_filter (mem_of_mem_filter hb))

lemma queue_publish (hm : event.owner.named = true) :
    (h.publish event nowMs).1.queue event.owner =
      (trim ExecutionEvent.sequence h.capacityPerAgent
        (h.queue event.owner ++ [h.stamp event nowMs]) (h.dropped event.owner)).1 := by
  rw [publish, if_neg (by simp [hm]), queue, Finmap.lookup_insert]
  rfl

lemma dropped_publish (hm : event.owner.named = true) :
    (h.publish event nowMs).1.dropped event.owner =
      (trim ExecutionEvent.sequence h.capacityPerAgent
        (h.queue event.owner ++ [h.stamp event nowMs]) (h.dropped event.owner)).2 := by
  rw [publish, if_neg (by simp [hm]), dropped]
  dsimp only
  split
  · rw [Finmap.lookup_insert]
    rfl
  · rename_i hf
    rw [trim_of_le (not_lt.mp hf)]
    rfl

lemma publish_of_ne (ho : owner ≠ event.owner) :
    (h.publish event nowMs).1.queue owner = h.queue owner ∧
      (h.publish event nowMs).1.dropped owner = h.dropped owner := by
  have hk : owner.queueKey ≠ event.owner.queueKey := fun h => ho (queueKey_injective h)
  unfold publish
  split
  · exact ⟨rfl, rfl⟩
  unfold queue dropped
  dsimp only
  refine ⟨by rw [Finmap.lookup_insert_of_ne _ hk], ?_⟩
  split
  · rw [Finmap.lookup_insert_of_ne _ hk]
  · rfl

variable (h)

lemma nextSequence_publish (nowMs : Nat) (hm : event.owner.named = true) :
    (h.publish event nowMs).1.nextSequence = h.nextSequence + 1 := by
  rw [publish, if_neg (by simp [hm])]

lemma nextSequence_le_publish (event : ExecutionEvent) (nowMs : Nat) :
    h.nextSequence ≤ (h.publish event nowMs).1.nextSequence := by
  unfold publish
  split
  · exact le_rfl
  · exact Nat.le_succ _

lemma streamEpoch_publish (event : ExecutionEvent) (nowMs : Nat) :
    (h.publish event nowMs).1.streamEpoch = h.streamEpoch := by
  unfold publish
  split <;> rfl

/-- A publication adds at most the event that is stored. -/
lemma own_accepted (owner : EventOwner) (event : ExecutionEvent)
    (nowMs : Nat) : own owner (h.accepted event nowMs) = [] ∨
      own owner (h.accepted event nowMs) = [h.stamp event nowMs] := by
  unfold accepted own
  split
  · by_cases ho : (h.stamp event nowMs).owner = owner
    · exact .inr (filter_cons_of_pos (by simpa using ho))
    · exact .inl (filter_cons_of_neg (by simpa using ho))
  · exact .inl rfl

variable {h}

lemma Holds.publish (hh : h.Holds published) (event : ExecutionEvent) (nowMs : Nat) :
    (h.publish event nowMs).1.Holds (published ++ h.accepted event nowMs) := by
  unfold accepted
  by_cases hm : event.owner.named = true
  · rw [if_pos hm]
    have hnext := nextSequence_publish h nowMs hm
    -- the owner's queue is trimmed, and what was dropped is the front of it
    have hl : ∀ b ∈ h.queue event.owner ++ [h.stamp event nowMs],
        h.dropped event.owner < b.sequence ∧ b.sequence < h.nextSequence + 1 := by
      intro b hb
      rcases List.mem_append.mp hb with hb | hb
      · rw [hh.queue, mem_filter] at hb
        have := hh.next b (mem_of_mem_filter hb.1)
        exact ⟨by simpa using hb.2, by omega⟩
      · rw [mem_singleton] at hb
        subst hb
        exact ⟨hh.dropped _, Nat.lt_succ_self _⟩
    obtain ⟨ht, he⟩ := trim_spec h.capacityPerAgent
      (hh.queue_numbered event.owner event nowMs) fun b hb => (hl b hb).1
    refine ⟨?_, ?_, ?_, ?_, fun owner => ?_, fun owner => ?_⟩
    · exact hh.numbered.append_singleton hh.next
    · intro b hb
      rcases List.mem_append.mp hb with hb | hb
      · exact hh.positive b hb
      · rw [mem_singleton] at hb
        exact hb ▸ hh.counter
    · intro b hb
      rw [hnext]
      rcases List.mem_append.mp hb with hb | hb
      · exact (hh.next b hb).trans (Nat.lt_succ_self _)
      · rw [mem_singleton] at hb
        exact hb ▸ Nat.lt_succ_self _
    · omega
    · by_cases ho : owner = event.owner
      · subst ho
        rw [dropped_publish hm, hnext]
        rcases trim_dropped h.capacityPerAgent (h.queue event.owner ++ [h.stamp event nowMs])
          (h.dropped event.owner) with hls | ⟨b, hb, hls⟩
        · rw [hls]
          exact (hh.dropped _).trans (Nat.lt_succ_self _)
        · rw [hls]
          exact (hl b hb).2
      · rw [(publish_of_ne ho).2, hnext]
        exact (hh.dropped _).trans (Nat.lt_succ_self _)
    · by_cases ho : owner = event.owner
      · subst ho
        have hs : own event.owner [h.stamp event nowMs] = [h.stamp event nowMs] :=
          filter_cons_of_pos (by simp [stamp])
        rw [queue_publish hm, dropped_publish hm, ht, own_append, hs, hh.queue,
          filter_append, filter_append, List.filter_filter]
        congr 1
        apply filter_congr
        intro b _
        rw [← hh.queue, Bool.and_eq_left_iff_imp]
        intro hb
        rw [decide_eq_true_eq] at hb ⊢
        exact he.trans_lt hb
      · have hother : own owner [h.stamp event nowMs] = [] :=
          filter_cons_of_neg (by simp [stamp, Ne.symm ho])
        rw [(publish_of_ne ho).1, (publish_of_ne ho).2, own_append, hother, append_nil]
        exact hh.queue owner
  · rw [if_neg hm, append_nil, ExecutionEventHub.publish, if_pos (by simpa using hm)]
    exact hh

/-! ### Reading -/

inductive Reads (h : ExecutionEventHub) (log : List ExecutionEvent) (owner : EventOwner)
    (afterSequence : Nat) (result : ExecutionEventReadResult) : Prop where
  | event (hstatus : result.status = .event)
      (hnext : log.find? (fun event => afterSequence < event.sequence) = some result.event)
      (hepoch : result.streamEpoch = h.streamEpoch)
  | gap (hstatus : result.status = .gap) (hbehind : afterSequence < result.droppedThroughSequence)
      (hdropped : result.droppedThroughSequence = h.dropped owner)
      (hepoch : result.streamEpoch = h.streamEpoch)
  | timeout (hstatus : result.status = .timeout)
      (hnone : ∀ event ∈ log, event.sequence ≤ afterSequence)
      (hreason : result.reasonCode = "EXECUTION_EVENT_TIMEOUT")
  | refused (hstatus : result.status = .invalidOwner ∨ result.status = .epochChanged)

lemma Holds.reads (hh : h.Holds published) (owner : EventOwner) (ep : String)
    (aft : Nat) : h.Reads (own owner published) owner aft
      (h.readNext owner ep aft) := by
  unfold readNext
  dsimp only
  split
  · exact .refused (.inl rfl)
  split
  · exact .refused (.inr rfl)
  split
  · rename_i hb
    exact .gap rfl hb rfl rfl
  rename_i hb
  rw [hh.queue, find?_window (not_lt.mp hb)]
  split
  · rename_i event he
    exact .event rfl he rfl
  · rename_i hnn
    refine .timeout rfl (fun event he => ?_) rfl
    simpa using List.find?_eq_none.mp hnn event he

lemma readNext_ne_invalidOwner (h : ExecutionEventHub) (hn : owner.named = true) (ep : String)
    (aft : Nat) : (h.readNext owner ep aft).status ≠ .invalidOwner := by
  unfold readNext
  rw [if_neg (by simp [hn])]
  dsimp only
  split_ifs
  · simp
  · simp
  · split <;> simp

/-- What happens at a hub with one reader: a publication, or a read by the reader's cursor. -/
inductive Action where
  | publish (event : ExecutionEvent) (nowMs : Nat)
  | read

/-- A hub, the events published so far and how far the reader has come. -/
structure Reader where
  hub : ExecutionEventHub
  published : List ExecutionEvent := []
  progress : Progress ExecutionEvent := {}

/-- The reader goes on to the event it receives, and past the gap it is told of. -/
def advance (progress : Progress ExecutionEvent) (result : ExecutionEventReadResult) :
    Progress ExecutionEvent :=
  match result.status with
  | .event => progress.take ExecutionEvent.sequence result.event
  | .gap => progress.skip result.droppedThroughSequence
  | _ => progress

def Reader.step (owner : EventOwner) (expectedEpoch : String) (r : Reader) : Action → Reader
  | .publish event nowMs =>
    { r with
      hub := (r.hub.publish event nowMs).1
      published := r.published ++ r.hub.accepted event nowMs }
  | .read =>
    { r with
      progress :=
        advance r.progress (r.hub.readNext owner expectedEpoch r.progress.cursor) }

def Reader.run (owner : EventOwner) (expectedEpoch : String) (r : Reader) (actions : List Action) :
    Reader :=
  actions.foldl (Reader.step owner expectedEpoch) r

/-- The reader has received its events up to its cursor, and its cursor is not ahead of the hub. -/
structure Follows (h : ExecutionEventHub) (published : List ExecutionEvent) (owner : EventOwner)
    (progress : Progress ExecutionEvent) : Prop where
  holds : h.Holds published
  exact : progress.Exact ExecutionEvent.sequence (own owner published)
  behind : progress.cursor < h.nextSequence

variable {progress : Progress ExecutionEvent}

lemma Holds.start (hh : h.Holds published) (owner : EventOwner) :
    h.Follows published owner {} where
  holds := hh
  exact := .start fun event he => hh.positive event (mem_of_mem_filter he)
  behind := hh.counter

lemma Follows.publish (hf : h.Follows published owner progress) (event : ExecutionEvent)
    (nowMs : Nat) : (h.publish event nowMs).1.Follows (published ++ h.accepted event nowMs) owner
      progress := by
  refine ⟨hf.holds.publish event nowMs, ?_,
    hf.behind.trans_le (nextSequence_le_publish h event nowMs)⟩
  rw [own_append]
  rcases own_accepted h owner event nowMs with hnn | ho
  · rw [hnn, append_nil]
    exact hf.exact
  · rw [ho]
    exact hf.exact.append hf.behind

lemma Follows.advance (hf : h.Follows published owner progress) (ep : String) :
    h.Follows published owner
      (advance progress (h.readNext owner ep progress.cursor)) := by
  have hr := hf.holds.reads owner ep progress.cursor
  generalize h.readNext owner ep progress.cursor = result at hr
  refine ⟨hf.holds, ?_, ?_⟩
  · cases hr with
    | event hs hx =>
      rw [ExecutionEventHub.advance, hs]
      exact hf.exact.take (hf.holds.own_numbered owner) hx
    | gap hs hb =>
      rw [ExecutionEventHub.advance, hs]
      exact hf.exact.skip hb.le
    | timeout hs =>
      rw [ExecutionEventHub.advance, hs]
      exact hf.exact
    | refused hs =>
      rcases hs with hs | hs <;> rw [ExecutionEventHub.advance, hs] <;>
        exact hf.exact
  · cases hr with
    | event hs hx =>
      rw [ExecutionEventHub.advance, hs]
      exact hf.holds.next _ (mem_of_mem_filter (mem_of_find?_eq_some hx))
    | gap hs hb hd =>
      rw [ExecutionEventHub.advance, hs]
      exact hd ▸ hf.holds.dropped owner
    | timeout hs =>
      rw [ExecutionEventHub.advance, hs]
      exact hf.behind
    | refused hs =>
      rcases hs with hs | hs <;> rw [ExecutionEventHub.advance, hs] <;>
        exact hf.behind

lemma capacityPerAgent_publish (h : ExecutionEventHub) (event : ExecutionEvent) (nowMs : Nat) :
    (h.publish event nowMs).1.capacityPerAgent = h.capacityPerAgent := by
  unfold publish
  split <;> rfl

lemma queue_publish_latest {cap : Nat} (hc : h.capacityPerAgent = cap)
    (hq : h.queue owner = (own owner published).rtake cap) (event : ExecutionEvent) (nowMs : Nat) :
    (h.publish event nowMs).1.queue owner =
      (own owner (published ++ h.accepted event nowMs)).rtake cap := by
  rw [own_append, accepted]
  by_cases hm : event.owner.named = true
  · rw [if_pos hm]
    by_cases ho : owner = event.owner
    · subst ho
      have hs : own event.owner [h.stamp event nowMs] = [h.stamp event nowMs] :=
        filter_cons_of_pos (by simp [stamp])
      rw [queue_publish hm, trim_fst, hc, hq, hs, rtake_concat_rtake]
    · have hs : own owner [h.stamp event nowMs] = [] :=
        filter_cons_of_neg (by simp [stamp, Ne.symm ho])
      rw [(publish_of_ne ho).1, hq, hs, append_nil]
  · rw [if_neg hm, publish, if_pos (by simpa using hm), hq]
    exact congrArg (rtake · _) (append_nil _).symm

/-- Whatever is published for the others, the queue of an owner has the owner's latest events. -/
theorem queue_latest (cap : Nat) (epoch newEpoch : String) (reader owner : EventOwner)
    (expectedEpoch : String) (actions : List Action) :
    let r := Reader.run reader expectedEpoch { hub := create cap epoch newEpoch } actions
    r.hub.queue owner = (own owner r.published).rtake (max 1 cap) := by
  intro r
  have hr : r.hub.capacityPerAgent = max 1 cap ∧
      r.hub.queue owner = (own owner r.published).rtake (max 1 cap) := by
    unfold r
    induction actions using reverseRecOn with
    | nil => exact ⟨rfl, (rtake_nil _).symm⟩
    | append_singleton actions action ih =>
      rw [Reader.run, foldl_concat, ← Reader.run]
      cases action with
      | publish event nowMs =>
        exact ⟨(capacityPerAgent_publish ..).trans ih.1, queue_publish_latest ih.1 ih.2 event nowMs⟩
      | read => exact ih
  exact hr.2

end ExecutionEventHub

end Hepta
