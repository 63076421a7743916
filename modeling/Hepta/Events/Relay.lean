import Hepta.Events.Hub

/-!
# The event relay

`ExecutionEventRelay` reads the events of one owner from the execution service and publishes them
into the hub of the gateway. Its cursor remembers the service, and whether the owner has to be
resynchronized first: after a gap, a new stream or a new service a control event is published, and
nothing is read until the resynchronization is acknowledged.
-/

namespace Hepta

open Function List Cursor ExecutionEventHub

structure ExecutionEventFeedRequest where
  owner : EventOwner
  expectedServiceIdentity : ExecutionServiceIdentity
  afterSequence : Nat := 0
  timeoutMs : Int := 0

structure ExecutionEventRelayOwner where
  owner : EventOwner
  serviceIdentity : ExecutionServiceIdentity
  deriving DecidableEq, Repr

structure ExecutionEventRelayCursor where
  upstreamServiceIdentity : ExecutionServiceIdentity := {}
  upstreamEpoch : String := ""
  upstreamSequence : Nat := 0
  authoritativeResyncRequired : Bool := false
  deriving DecidableEq, Repr

inductive ExecutionEventRelayStatus where
  | published
  | timeout
  | gap
  | epochChanged
  | serviceIdentityChanged
  | serviceIdentityMismatch
  | resyncRequired
  | invalidOwner
  | transportFailure
  deriving DecidableEq, Repr

def ExecutionServiceIdentity.valid (identity : ExecutionServiceIdentity) : Bool :=
  identity.serviceEpoch ≠ "" && decide (identity.serviceEpoch.utf8ByteSize ≤ 128) &&
    identity.serviceFencingGeneration ≠ 0

namespace ExecutionEventRelay

/-- What `Poll` leaves: the cursor, its answer, and the event that it hands to the local hub. -/
structure Polled where
  cursor : ExecutionEventRelayCursor
  status : ExecutionEventRelayStatus
  reason : String
  handed : Option ExecutionEvent := none

def controlEvent (owner : EventOwner) (type reasonCode : String)
    (upstream : ExecutionEventReadResult) : ExecutionEvent :=
  { owner, type, reasonCode
    venue := "EXECUTION_SERVICE"
    status := "AuthoritativeResyncRequired"
    upstreamServiceEpoch := upstream.serviceIdentity.serviceEpoch
    upstreamServiceFencingGeneration := upstream.serviceIdentity.serviceFencingGeneration
    upstreamStreamEpoch := upstream.streamEpoch
    upstreamSequence := upstream.droppedThroughSequence }

/-- An event with the place it comes from. -/
def withProvenance (identity : ExecutionServiceIdentity) (streamEpoch : String)
    (event : ExecutionEvent) : ExecutionEvent :=
  { event with
    upstreamServiceEpoch := identity.serviceEpoch
    upstreamServiceFencingGeneration := identity.serviceFencingGeneration
    upstreamStreamEpoch := streamEpoch
    upstreamSequence := event.sequence }

/-- The part of `Poll` after the feed has answered. -/
def receive (owner : ExecutionEventRelayOwner) (cursor : ExecutionEventRelayCursor)
    (upstream : ExecutionEventReadResult) : Polled :=
  match upstream.status with
  | .event =>
    if upstream.serviceIdentity ≠ owner.serviceIdentity ∨ upstream.event.owner ≠ owner.owner then
      { cursor, status := .transportFailure, reason := "EXECUTION_EVENT_RELAY_OWNER_MISMATCH" }
    else
      let event := withProvenance upstream.serviceIdentity upstream.streamEpoch upstream.event
      -- the local hub refuses only events without an owner
      if !event.owner.named then
        { cursor, status := .transportFailure, reason := "EXECUTION_EVENT_RELAY_PUBLISH_FAILED" }
      else
        { cursor :=
            { cursor with
              upstreamEpoch := upstream.streamEpoch
              upstreamSequence := upstream.event.sequence }
          status := .published
          reason := ""
          handed := some event }
  | .gap =>
    { cursor :=
        { cursor with
          upstreamEpoch := upstream.streamEpoch
          upstreamSequence := upstream.droppedThroughSequence
          authoritativeResyncRequired := true }
      status := .gap
      reason := upstream.reasonCode
      handed :=
        some (controlEvent owner.owner "system.execution_stream_gap" "EXECUTION_EVENT_GAP"
          upstream) }
  | .epochChanged =>
    { cursor :=
        { cursor with
          upstreamEpoch := upstream.streamEpoch
          upstreamSequence := 0
          authoritativeResyncRequired := true }
      status := .epochChanged
      reason := upstream.reasonCode
      handed :=
        some (controlEvent owner.owner "system.execution_stream_epoch_changed"
          "EXECUTION_EVENT_STREAM_EPOCH_CHANGED" upstream) }
  | .serviceIdentityMismatch =>
    { cursor, status := .serviceIdentityMismatch, reason := upstream.reasonCode }
  | .invalidOwner => { cursor, status := .invalidOwner, reason := upstream.reasonCode }
  | _ =>
    { cursor
      status :=
        if upstream.reasonCode ≠ "EXECUTION_EVENT_TIMEOUT" then .transportFailure else .timeout
      reason := upstream.reasonCode }

/-- The cursor of a relay that has not read yet is set to the service of its owner. -/
def enter (owner : ExecutionEventRelayOwner) (cursor : ExecutionEventRelayCursor) :
    ExecutionEventRelayCursor :=
  if cursor.upstreamServiceIdentity.valid then cursor
  else
    { cursor with
      upstreamServiceIdentity := owner.serviceIdentity
      upstreamEpoch := owner.serviceIdentity.serviceEpoch
      upstreamSequence := 0 }

def poll (reader : Option (ExecutionEventFeedRequest → ExecutionEventReadResult))
    (owner : ExecutionEventRelayOwner) (cursor : ExecutionEventRelayCursor) (timeoutMs : Int) :
    Polled :=
  match reader with
  | none =>
    { cursor, status := .invalidOwner, reason := "EXECUTION_EVENT_RELAY_INVALID_REQUEST" }
  | some reader =>
    if !owner.owner.named ∨ !owner.serviceIdentity.valid ∨ timeoutMs < 0 ∨ timeoutMs > 30000 then
      { cursor, status := .invalidOwner, reason := "EXECUTION_EVENT_RELAY_INVALID_REQUEST" }
    else if cursor.upstreamServiceIdentity.valid ∧
        cursor.upstreamServiceIdentity ≠ owner.serviceIdentity then
      let changed : ExecutionEventReadResult :=
        { status := .serviceIdentityMismatch
          serviceIdentity := owner.serviceIdentity
          streamEpoch := owner.serviceIdentity.serviceEpoch }
      { cursor :=
          { upstreamServiceIdentity := owner.serviceIdentity
            upstreamEpoch := owner.serviceIdentity.serviceEpoch
            upstreamSequence := 0
            authoritativeResyncRequired := true }
        status := .serviceIdentityChanged
        reason := "EXECUTION_EVENT_SERVICE_IDENTITY_CHANGED"
        handed :=
          some (controlEvent owner.owner "system.execution_service_identity_changed"
            "EXECUTION_EVENT_SERVICE_IDENTITY_CHANGED" changed) }
    else
      let cursor := enter owner cursor
      if cursor.authoritativeResyncRequired then
        { cursor, status := .resyncRequired
          reason := "EXECUTION_EVENT_AUTHORITATIVE_RESYNC_REQUIRED" }
      else
        receive owner cursor (reader
          { owner := owner.owner
            expectedServiceIdentity := owner.serviceIdentity
            afterSequence := cursor.upstreamSequence
            timeoutMs })

def acknowledgeAuthoritativeResync (cursor : ExecutionEventRelayCursor)
    (reconciledIdentity : ExecutionServiceIdentity) : ExecutionEventRelayCursor × Bool :=
  if !reconciledIdentity.valid ∨ cursor.upstreamServiceIdentity ≠ reconciledIdentity then
    (cursor, false)
  else ({ cursor with authoritativeResyncRequired := false }, true)

/-! ### A relay between hubs -/

/-- How the feed answers a poll: with what the hub of the service says, or with a failure of the
service or of the connection. -/
inductive Feed where
  | answered
  | failed (result : ExecutionEventReadResult)
      (h : result.status ∉ [ExecutionEventReadStatus.event, .gap, .epochChanged])

/-- An event that the relay has published: the answer of its poll, the event that was handed to
the local hub and the one stored there. -/
structure Publication where
  status : ExecutionEventRelayStatus
  handed : ExecutionEvent
  stored : ExecutionEvent

/-- The hubs of the services and of the gateway with all that was published in them, and the relay
of one owner with its own publications. -/
structure World where
  upstream : ExecutionServiceIdentity → ExecutionEventHub
  upstreamPublished : ExecutionServiceIdentity → List ExecutionEvent := fun _ => []
  localHub : ExecutionEventHub
  localPublished : List ExecutionEvent := []
  cursor : ExecutionEventRelayCursor := {}
  publications : List Publication := []

inductive Action where
  /-- A service publishes. -/
  | upstream (identity : ExecutionServiceIdentity) (event : ExecutionEvent) (nowMs : Nat)
  | publish (event : ExecutionEvent) (nowMs : Nat)
  | poll (identity : ExecutionServiceIdentity) (timeoutMs : Int) (feed : Feed) (nowMs : Nat)
  | acknowledge (identity : ExecutionServiceIdentity)

namespace World

def read (w : World) (feed : Feed) (request : ExecutionEventFeedRequest) :
    ExecutionEventReadResult :=
  match feed with
  | .failed result _ => result
  | .answered =>
    { (w.upstream request.expectedServiceIdentity).readNext request.owner
        request.expectedServiceIdentity.serviceEpoch request.afterSequence with
      serviceIdentity := request.expectedServiceIdentity }

def polled (w : World) (owner : EventOwner) (identity : ExecutionServiceIdentity) (timeoutMs : Int)
    (feed : Feed) : Polled :=
  poll (some (w.read feed)) { owner, serviceIdentity := identity } w.cursor timeoutMs

def publish (w : World) (polled : Polled) (nowMs : Nat) : World :=
  match polled.handed with
  | none => { w with cursor := polled.cursor }
  | some event =>
    { w with
      cursor := polled.cursor
      localHub := (w.localHub.publish event nowMs).1
      localPublished := w.localPublished ++ w.localHub.accepted event nowMs
      publications := w.publications ++
        [{ status := polled.status, handed := event, stored := w.localHub.stamp event nowMs }] }

def step (owner : EventOwner) (w : World) : Action → World
  | .upstream identity event nowMs =>
    { w with
      upstream := Function.update w.upstream identity ((w.upstream identity).publish event nowMs).1
      upstreamPublished := Function.update w.upstreamPublished identity
        (w.upstreamPublished identity ++ (w.upstream identity).accepted event nowMs) }
  | .publish event nowMs =>
    { w with
      localHub := (w.localHub.publish event nowMs).1
      localPublished := w.localPublished ++ w.localHub.accepted event nowMs }
  | .poll identity timeoutMs feed nowMs =>
    w.publish (w.polled owner identity timeoutMs feed) nowMs
  | .acknowledge identity =>
    { w with cursor := (acknowledgeAuthoritativeResync w.cursor identity).1 }

def run (owner : EventOwner) (w : World) (actions : List Action) : World :=
  actions.foldl (step owner) w

/-- Hubs in which nothing is published yet. -/
def start (capacity : ExecutionServiceIdentity → Nat) (epoch : ExecutionServiceIdentity → String)
    (localCapacity : Nat) (localEpoch : String) : World :=
  { upstream := fun identity => create (capacity identity) (epoch identity) (epoch identity)
    localHub := create localCapacity localEpoch localEpoch }

/-- How far the relay has come with the service it reads from, by its publications: events that
it relayed, gaps that it announced, and a new start with each other control event. -/
def progressStep (progress : Progress ExecutionEvent) (publication : Publication) :
    Progress ExecutionEvent :=
  match publication.status with
  | .published => progress.take ExecutionEvent.sequence publication.handed
  | .gap => progress.skip publication.handed.upstreamSequence
  | _ => {}

def progress (w : World) : Progress ExecutionEvent := w.publications.foldl progressStep {}

/-- The events of the owner in the service that the relay reads from, as they are relayed. -/
def source (w : World) (owner : EventOwner) : List ExecutionEvent :=
  let identity := w.cursor.upstreamServiceIdentity
  (own owner (w.upstreamPublished identity)).map
    (withProvenance identity (w.upstream identity).streamEpoch)

/-! ### What a poll does -/

variable {w : World} {owner : EventOwner} {identity : ExecutionServiceIdentity} {timeoutMs : Int}
  {feed : Feed} {nowMs : Nat} {polled : Polled} {event : ExecutionEvent}

def request (w : World) (owner : EventOwner) (identity : ExecutionServiceIdentity)
    (timeoutMs : Int) : ExecutionEventFeedRequest :=
  { owner, expectedServiceIdentity := identity, afterSequence := w.cursor.upstreamSequence,
    timeoutMs }

/-- The world whose relay reads from the service of the poll. -/
def entered (w : World) (owner : EventOwner) (identity : ExecutionServiceIdentity) : World :=
  { w with cursor := enter { owner, serviceIdentity := identity } w.cursor }

/-- A poll is refused, finds another service, waits for the resynchronization or reads. -/
inductive Polls (w : World) (owner : EventOwner) (identity : ExecutionServiceIdentity)
    (timeoutMs : Int) (feed : Feed) : Polled → Prop where
  | refused : Polls w owner identity timeoutMs feed
      { cursor := w.cursor, status := .invalidOwner
        reason := "EXECUTION_EVENT_RELAY_INVALID_REQUEST" }
  | changed {reason : String} {control : ExecutionEvent} (hnamed : owner.named = true)
      (hvalid : identity.valid = true) (hother : w.cursor.upstreamServiceIdentity ≠ identity)
      (howner : control.owner = owner) :
      Polls w owner identity timeoutMs feed
        { cursor :=
            { upstreamServiceIdentity := identity
              upstreamEpoch := identity.serviceEpoch
              upstreamSequence := 0
              authoritativeResyncRequired := true }
          status := .serviceIdentityChanged
          reason
          handed := some control }
  | waiting {reason : String} (hvalid : identity.valid = true)
      (hsame : w.cursor.upstreamServiceIdentity.valid = true →
        w.cursor.upstreamServiceIdentity = identity)
      (hresync : w.cursor.authoritativeResyncRequired = true) :
      Polls w owner identity timeoutMs feed
        { cursor := (w.entered owner identity).cursor, status := .resyncRequired, reason }
  | reading (hnamed : owner.named = true) (hvalid : identity.valid = true)
      (hsame : w.cursor.upstreamServiceIdentity.valid = true →
        w.cursor.upstreamServiceIdentity = identity)
      (hresync : w.cursor.authoritativeResyncRequired = false) :
      Polls w owner identity timeoutMs feed
        (receive { owner, serviceIdentity := identity } (w.entered owner identity).cursor
          ((w.entered owner identity).read feed
            ((w.entered owner identity).request owner identity timeoutMs)))

lemma polls (w : World) (owner : EventOwner) (identity : ExecutionServiceIdentity)
    (timeoutMs : Int) (feed : Feed) :
    w.Polls owner identity timeoutMs feed (w.polled owner identity timeoutMs feed) := by
  have hrs : (w.entered owner identity).cursor.authoritativeResyncRequired =
      w.cursor.authoritativeResyncRequired := by
    unfold entered enter
    dsimp only
    split <;> rfl
  unfold polled poll
  dsimp only
  split
  · exact .refused
  rename_i hr
  simp only [Bool.not_eq_true', not_or, Bool.not_eq_false] at hr
  split
  · rename_i ho
    exact .changed hr.1 hr.2.1 ho.2 rfl
  rename_i ho
  have hs : w.cursor.upstreamServiceIdentity.valid = true →
      w.cursor.upstreamServiceIdentity = identity := by
    intro hv
    by_contra he
    exact ho ⟨hv, he⟩
  split
  · rename_i hf
    exact .waiting hr.2.1 hs (hrs.symm.trans hf)
  · rename_i hf
    exact .reading hr.1 hr.2.1 hs (hrs.symm.trans (Bool.eq_false_iff.mpr hf))

lemma entered_identity (owner : EventOwner) (h : w.cursor.upstreamServiceIdentity.valid = true →
    w.cursor.upstreamServiceIdentity = identity) :
    (w.entered owner identity).cursor.upstreamServiceIdentity = identity := by
  unfold entered enter
  dsimp only
  split
  · rename_i hv
    exact h hv
  · rfl

/-- An answer without content changes nothing. -/
lemma receive_failed (ro : ExecutionEventRelayOwner) (cu : ExecutionEventRelayCursor)
    (result : ExecutionEventReadResult)
    (h : result.status ∉ [ExecutionEventReadStatus.event, .gap, .epochChanged]) :
    (receive ro cu result).cursor = cu ∧
      (receive ro cu result).handed = none ∧
      (receive ro cu result).status ≠ .published := by
  simp only [mem_cons, not_mem_nil, or_false, not_or] at h
  unfold receive
  split <;> simp_all
  split <;> simp

lemma receive_event (cursor : ExecutionEventRelayCursor) (result : ExecutionEventReadResult)
    (hs : result.status = .event) (hi : result.serviceIdentity = identity)
    (howner : result.event.owner = owner) (hm : owner.named = true) :
    receive { owner, serviceIdentity := identity } cursor result =
      { cursor :=
          { cursor with
            upstreamEpoch := result.streamEpoch
            upstreamSequence := result.event.sequence }
        status := .published
        reason := ""
        handed := some (withProvenance identity result.streamEpoch result.event) } := by
  have hk : (withProvenance result.serviceIdentity result.streamEpoch result.event).owner =
    result.event.owner := rfl
  unfold receive
  rw [hs]
  dsimp only
  rw [if_neg (by simp [hi, howner]), if_neg (by simp [hk, howner, hm]), hi]

/-! ### The relay follows its service -/

/-- The relay has relayed the events of its owner up to its cursor, without the announced gaps. -/
structure Relays (owner : EventOwner) (w : World) : Prop where
  upstream : ∀ identity, (w.upstream identity).Holds (w.upstreamPublished identity)
  localHub : w.localHub.Holds w.localPublished
  exact : w.progress.Exact ExecutionEvent.sequence (w.source owner)
  cursor : w.progress.cursor = w.cursor.upstreamSequence
  behind : w.cursor.upstreamSequence < (w.upstream w.cursor.upstreamServiceIdentity).nextSequence
  fresh : w.cursor.upstreamServiceIdentity.valid = false → w.publications = []
  stored : (w.publications.map Publication.stored).Sublist w.localPublished

lemma source_positive {w : World}
    (h : ∀ identity, (w.upstream identity).Holds (w.upstreamPublished identity)) :
    ∀ event ∈ w.source owner, 0 < event.sequence := by
  intro event hv
  obtain ⟨e, he, rfl⟩ := List.mem_map.mp hv
  exact (h _).positive e (mem_of_mem_filter he)

lemma source_behind {w : World}
    (h : ∀ identity, (w.upstream identity).Holds (w.upstreamPublished identity)) :
    ∀ event ∈ w.source owner,
      event.sequence < (w.upstream w.cursor.upstreamServiceIdentity).nextSequence := by
  intro event hv
  obtain ⟨e, he, rfl⟩ := List.mem_map.mp hv
  exact (h _).next e (mem_of_mem_filter he)

lemma Relays.entered (h : w.Relays owner) (hv : identity.valid = true) :
    (w.entered owner identity).Relays owner := by
  by_cases hc : w.cursor.upstreamServiceIdentity.valid = true
  · have hs : w.entered owner identity = w := by
      unfold World.entered enter
      rw [if_pos hc]
    rw [hs]
    exact h
  · have hc' : (w.entered owner identity).cursor =
        { w.cursor with
          upstreamServiceIdentity := identity
          upstreamEpoch := identity.serviceEpoch
          upstreamSequence := 0 } := by
      unfold World.entered enter
      rw [if_neg hc]
    have he := h.fresh (by simpa using hc)
    have hp : (w.entered owner identity).progress = {} := by
      change w.publications.foldl progressStep {} = {}
      rw [he]
      rfl
    refine ⟨h.upstream, h.localHub, ?_, ?_, ?_, ?_, h.stored⟩
    · rw [hp]
      exact .start (source_positive h.upstream)
    · rw [hp, hc']
    · rw [hc']
      exact (h.upstream _).counter
    · rw [hc']
      intro hi
      rw [hv] at hi
      cases hi

lemma Relays.publish_none (h : w.Relays owner) (hh : polled.handed = none)
    (hc : polled.cursor = w.cursor) : (w.publish polled nowMs).Relays owner := by
  rw [publish, hh, hc]
  exact h

lemma Relays.publish_some (h : w.Relays owner)
    (hh : polled.handed = some event) (hm : event.owner.named = true)
    (hv : polled.cursor.upstreamServiceIdentity.valid = true)
    (he : ∀ stored, (progressStep w.progress ⟨polled.status, event, stored⟩).Exact
      ExecutionEvent.sequence (source { w with cursor := polled.cursor } owner))
    (hc : ∀ stored, (progressStep w.progress ⟨polled.status, event, stored⟩).cursor =
      polled.cursor.upstreamSequence)
    (hbehind : polled.cursor.upstreamSequence <
      (w.upstream polled.cursor.upstreamServiceIdentity).nextSequence) :
    (w.publish polled nowMs).Relays owner := by
  have hp : ∀ publication, List.foldl progressStep {} (w.publications ++ [publication]) =
      progressStep w.progress publication := by
    intro publication
    rw [foldl_append]
    rfl
  rw [publish, hh]
  refine ⟨h.upstream, h.localHub.publish event nowMs, ?_, ?_, hbehind, ?_, ?_⟩
  · rw [World.progress, hp]
    exact he _
  · rw [World.progress, hp]
    exact hc _
  · intro hi
    rw [hv] at hi
    cases hi
  · change List.Sublist _ (w.localPublished ++ w.localHub.accepted event nowMs)
    rw [map_append, accepted, if_pos hm]
    exact h.stored.append (.refl _)

lemma find?_source {af : Nat}
    (h : (own owner (w.upstreamPublished w.cursor.upstreamServiceIdentity)).find?
      (fun event => af < event.sequence) = some event) :
    (w.source owner).find? (fun event => af < event.sequence) =
      some (withProvenance w.cursor.upstreamServiceIdentity
        (w.upstream w.cursor.upstreamServiceIdentity).streamEpoch event) := by
  rw [source, find?_map]
  have hs : ((fun event : ExecutionEvent => decide (af < event.sequence)) ∘
      withProvenance w.cursor.upstreamServiceIdentity
        (w.upstream w.cursor.upstreamServiceIdentity).streamEpoch) =
      fun event => decide (af < event.sequence) := rfl
  rw [hs, h]
  rfl

lemma Relays.source_numbered (h : w.Relays owner) :
    Numbered ExecutionEvent.sequence (w.source owner) := by
  have := (h.upstream w.cursor.upstreamServiceIdentity).own_numbered owner
  exact List.pairwise_map.mpr this

/-- What a poll makes of the answer of the hub: it hands on the next event of the owner, there is
none, or it announces a gap or a new stream and the relay is stopped. -/
inductive Answers (w : World) (owner : EventOwner) (polled : Polled) : Prop where
  | published {event : ExecutionEvent} (hstatus : polled.status = .published)
      (hnext : (w.source owner).find? (fun e => w.cursor.upstreamSequence < e.sequence) = some event)
      (hhanded : polled.handed = some event) (howner : event.owner = owner)
      (hcursor : polled.cursor =
        { w.cursor with
          upstreamEpoch := event.upstreamStreamEpoch
          upstreamSequence := event.sequence })
  | timeout (hstatus : polled.status = .timeout) (hhanded : polled.handed = none)
      (hcursor : polled.cursor = w.cursor)
      (hnone : ∀ event ∈ own owner (w.upstreamPublished w.cursor.upstreamServiceIdentity),
        event.sequence ≤ w.cursor.upstreamSequence)
  | stopped {event : ExecutionEvent} {sequence : Nat}
      (hstatus : polled.status = .gap ∧ w.cursor.upstreamSequence < sequence ∧
          sequence = event.upstreamSequence ∧
          sequence < (w.upstream w.cursor.upstreamServiceIdentity).nextSequence ∨
        polled.status = .epochChanged ∧ sequence = 0)
      (hhanded : polled.handed = some event) (howner : event.owner = owner)
      (hcursor : polled.cursor =
        { w.cursor with
          upstreamEpoch := event.upstreamStreamEpoch
          upstreamSequence := sequence
          authoritativeResyncRequired := true })

lemma Relays.answers (h : w.Relays owner) (hnm : owner.named = true) (timeoutMs : Int) :
    w.Answers owner (receive { owner, serviceIdentity := w.cursor.upstreamServiceIdentity } w.cursor
      (w.read .answered (w.request owner w.cursor.upstreamServiceIdentity timeoutMs))) := by
  have hr := (h.upstream w.cursor.upstreamServiceIdentity).reads owner
    w.cursor.upstreamServiceIdentity.serviceEpoch w.cursor.upstreamSequence
  have hn := readNext_ne_invalidOwner (w.upstream w.cursor.upstreamServiceIdentity) hnm
    w.cursor.upstreamServiceIdentity.serviceEpoch w.cursor.upstreamSequence
  unfold World.read request
  dsimp only
  generalize (w.upstream w.cursor.upstreamServiceIdentity).readNext owner
    w.cursor.upstreamServiceIdentity.serviceEpoch w.cursor.upstreamSequence = result at hr hn ⊢
  cases hr with
  | event hs hx he =>
    have ho : result.event.owner = owner := by
      simpa using (List.mem_filter.mp (mem_of_find?_eq_some hx)).2
    rw [receive_event w.cursor { result with serviceIdentity := w.cursor.upstreamServiceIdentity }
      hs rfl ho hnm]
    exact .published rfl (find?_source hx) (by rw [he]) ho (by rw [← he]; rfl)
  | gap hs hb hd =>
    rw [receive]
    dsimp only
    rw [hs]
    exact .stopped (.inl ⟨rfl, hb, rfl, hd ▸ (h.upstream _).dropped owner⟩) rfl rfl rfl
  | timeout hs hnn hreason =>
    rw [receive]
    dsimp only
    rw [hs, if_neg (not_not.mpr hreason)]
    exact .timeout rfl rfl rfl hnn
  | refused hs =>
    rw [receive]
    dsimp only
    rw [hs.resolve_left hn]
    exact .stopped (.inr ⟨rfl, rfl⟩) rfl rfl rfl

lemma Relays.receive (h : w.Relays owner) (hnm : owner.named = true)
    (hv : identity.valid = true) (hsm : w.cursor.upstreamServiceIdentity = identity) :
    (w.publish (receive { owner, serviceIdentity := identity } w.cursor
      (w.read feed (w.request owner identity timeoutMs))) nowMs).Relays owner := by
  subst hsm
  cases feed with
  | failed result ha =>
    obtain ⟨hc, hh, -⟩ :=
      receive_failed ⟨owner, w.cursor.upstreamServiceIdentity⟩ w.cursor result ha
    exact h.publish_none hh hc
  | answered =>
    have hp := h.answers hnm timeoutMs
    generalize ExecutionEventRelay.receive _ _ _ = polled at hp ⊢
    cases hp with
    | published hs hx hh ho hc =>
      have hl := (source_behind h.upstream) _ (mem_of_find?_eq_some hx)
      rw [← h.cursor] at hx
      refine h.publish_some hh (ho ▸ hnm) (hc ▸ hv) ?_ ?_ (hc ▸ hl)
      · rw [hs, hc]
        exact fun _ => h.exact.take h.source_numbered hx
      · rw [hs, hc]
        exact fun _ => rfl
    | timeout _ hh hc => exact h.publish_none hh hc
    | stopped hs hh ho hc =>
      rcases hs with ⟨hs, hb, rfl, hl⟩ | ⟨hs, rfl⟩
      · refine h.publish_some hh (ho ▸ hnm) (hc ▸ hv) ?_ ?_ (hc ▸ hl)
        · rw [hs, hc]
          exact fun _ => h.exact.skip (h.cursor ▸ hb.le)
        · rw [hs, hc]
          exact fun _ => rfl
      · -- a new stream starts again at its first event
        refine h.publish_some hh (ho ▸ hnm) (hc ▸ hv) ?_ ?_ (hc ▸ (h.upstream _).counter)
        · rw [hs, hc]
          exact fun _ => .start (source_positive h.upstream)
        · rw [hs, hc]
          exact fun _ => rfl

lemma Relays.upstreamStep (h : w.Relays owner) (identity : ExecutionServiceIdentity)
    (event : ExecutionEvent) (nowMs : Nat) :
    (w.step owner (.upstream identity event nowMs)).Relays owner := by
  have hh : ∀ identity', (Function.update w.upstream identity
      ((w.upstream identity).publish event nowMs).1 identity').Holds
      (Function.update w.upstreamPublished identity
        (w.upstreamPublished identity ++ (w.upstream identity).accepted event nowMs) identity') := by
    intro identity'
    by_cases hs : identity' = identity
    · subst hs
      rw [update_self, update_self]
      exact (h.upstream identity').publish event nowMs
    · rw [update_of_ne hs, update_of_ne hs]
      exact h.upstream identity'
  by_cases hi : w.cursor.upstreamServiceIdentity = identity
  · subst hi
    refine ⟨hh, h.localHub, ?_, h.cursor, ?_, h.fresh, h.stored⟩
    · rw [source]
      dsimp only [World.step]
      rw [update_self, update_self, streamEpoch_publish, own_append, map_append]
      rcases own_accepted (w.upstream w.cursor.upstreamServiceIdentity) owner event nowMs with
        hnn | ho
      · rw [hnn, map_nil, append_nil]
        exact h.exact
      · rw [ho, map_singleton]
        apply h.exact.append
        rw [h.cursor]
        exact h.behind
    · dsimp only [World.step]
      rw [update_self]
      exact h.behind.trans_le (nextSequence_le_publish _ event nowMs)
  · refine ⟨hh, h.localHub, ?_, h.cursor, ?_, h.fresh, h.stored⟩
    · rw [source]
      dsimp only [World.step]
      rw [update_of_ne hi, update_of_ne hi]
      exact h.exact
    · dsimp only [World.step]
      rw [update_of_ne hi]
      exact h.behind

lemma Relays.step (h : w.Relays owner) (a : Action) : (w.step owner a).Relays owner := by
  cases a with
  | upstream => exact h.upstreamStep ..
  | publish event nowMs =>
    exact ⟨h.upstream, h.localHub.publish event nowMs, h.exact, h.cursor, h.behind, h.fresh,
      h.stored.trans (sublist_append_left _ _)⟩
  | acknowledge identity =>
    have hc : (acknowledgeAuthoritativeResync w.cursor identity).1.upstreamServiceIdentity =
          w.cursor.upstreamServiceIdentity ∧
        (acknowledgeAuthoritativeResync w.cursor identity).1.upstreamSequence =
          w.cursor.upstreamSequence := by
      unfold acknowledgeAuthoritativeResync
      split <;> exact ⟨rfl, rfl⟩
    refine ⟨h.upstream, h.localHub, ?_, h.cursor.trans hc.2.symm, ?_, ?_, h.stored⟩
    · rw [source, World.step, hc.1]
      exact h.exact
    · rw [World.step, hc.1, hc.2]
      exact h.behind
    · rw [World.step, hc.1]
      exact h.fresh
  | poll identity timeoutMs feed nowMs =>
    have hp := w.polls owner identity timeoutMs feed
    rw [World.step]
    generalize w.polled owner identity timeoutMs feed = polled at hp
    cases hp with
    | refused => exact h.publish_none rfl rfl
    | changed hm hv hh ho =>
      apply h.publish_some rfl (ho ▸ hm) hv
      · exact fun _ => .start (source_positive h.upstream)
      · exact fun _ => rfl
      · exact (h.upstream _).counter
    | waiting hv hsm hr => exact h.entered hv
    | reading hm hv hsm hr =>
      exact (h.entered hv).receive hm hv (entered_identity owner hsm)

lemma Relays.run (h : w.Relays owner) (acts : List Action) : (w.run owner acts).Relays owner := by
  induction acts generalizing w with
  | nil => exact h
  | cons a acts ih => exact ih (h.step a)

/-! ### Control events -/

/-- The poll that relays an event, or that the hub has answered, has read it from its service. -/
lemma Polls.answers (hp : w.Polls owner identity timeoutMs feed polled) (h : w.Relays owner)
    (hs : polled.status = .published ∨ feed = .answered ∧ polled.status = .timeout) :
    owner.named = true ∧ (w.entered owner identity).cursor.upstreamServiceIdentity = identity ∧
      (w.entered owner identity).Answers owner polled := by
  cases hp with
  | refused | changed | waiting => simp at hs
  | reading hm hv hsm =>
    have hi := entered_identity owner hsm
    refine ⟨hm, hi, ?_⟩
    cases feed with
    | failed result ha =>
      exact absurd (hs.resolve_right (by simp)) (receive_failed _ _ result ha).2.2
    | answered =>
      have := (h.entered hv).answers hm timeoutMs
      rwa [hi] at this

/-- A well-formed request of a relay that is not stopped. -/
def Asks (w : World) (owner : EventOwner) (identity : ExecutionServiceIdentity) (timeoutMs : Int) :
    Prop :=
  owner.named = true ∧ identity.valid = true ∧ 0 ≤ timeoutMs ∧ timeoutMs ≤ 30000 ∧
    (w.cursor.upstreamServiceIdentity.valid = true → w.cursor.upstreamServiceIdentity = identity) ∧
    w.cursor.authoritativeResyncRequired = false

lemma Asks.polls (h : w.Asks owner identity timeoutMs) (hr : w.Relays owner) :
    (w.entered owner identity).Answers owner (w.polled owner identity timeoutMs .answered) := by
  obtain ⟨hm, hv, hl, hu, hsm, hrs⟩ := h
  have hi := entered_identity owner hsm
  have ha := (hr.entered hv).answers hm timeoutMs
  rw [hi] at ha
  have hrs' : (enter ⟨owner, identity⟩ w.cursor).authoritativeResyncRequired = false := by
    unfold enter
    split <;> exact hrs
  unfold World.polled poll
  dsimp only
  rw [if_neg (by simp [hm, hv, hl, hu]), if_neg (fun hc => hc.2 (hsm hc.1)), if_neg (by simp [hrs'])]
  exact ha

end World

end ExecutionEventRelay

end Hepta
