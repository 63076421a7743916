import Mathlib.Algebra.BigOperators.Group.List.Basic
import Mathlib.Algebra.Order.Ring.Unbundled.Rat
import Mathlib.Data.Char
import Mathlib.Data.List.Sort
import Mathlib.Tactic.Linarith
import Mathlib.Tactic.Ring
import Hepta.Library.Fold
import Hepta.Library.Map

/-!
# The simulator part of a sealed generation

Sealing carries the state of the simulator over as rows of the hot replay: the largest order id, the
number of admitted orders and the positions. `_apply_simulator_events` goes on from there with the
next segment; the placements that a fill needs are kept only while one segment is read. Numbers are
read as exact rationals, and the checks for overflow are left out.
-/

namespace Hepta

open List

inductive SimulatorKind where
  | placeSent
  | status
  | stateCheckpoint
  | positionCheckpoint
  | stateCheckpointReady
  | other
  deriving DecidableEq, Repr

/-- A record of the journal, with the fields that the simulator part reads or writes. -/
structure SimulatorRecord where
  event : SimulatorKind
  venue : String := "SIMULATOR"
  account : String := "SIM"
  orderId : Int := -1
  reqId : String := ""
  requestHash : String := ""
  brokerRequestId : Int := 0
  instrument : String := ""
  side : String := ""
  qty : ℚ := 0
  price : ℚ := 0
  status : String := ""
  deriving DecidableEq, Repr

structure SimulatorState where
  present : Bool := false
  maxOrderId : Int := 999999
  admittedOrders : Int := 0
  positions : Dict String ℚ := ∅

namespace Simulator

def position (positions : Dict String ℚ) (instrument : String) : ℚ :=
  (positions.lookup instrument).getD 0

/-! ### Reading records -/

/-- A record of the simulator that `_apply_simulator_events` does not pass over. -/
def isFill (e : SimulatorRecord) : Bool :=
  e.venue = "SIMULATOR" && e.account = "SIM" && e.event = .status && e.status = "Filled"

def isPlace (e : SimulatorRecord) : Bool :=
  e.venue = "SIMULATOR" && e.account = "SIM" && e.event = .placeSent

def validRecord (e : SimulatorRecord) : Bool :=
  decide (0 ≤ e.orderId) && e.instrument ≠ "" && (e.side = "BUY" || e.side = "SELL") &&
    decide (0 < e.qty)

def signed (side : String) (qty : ℚ) : ℚ := if side = "BUY" then qty else -qty

/-- What makes a placement the same one. -/
def identity (e : SimulatorRecord) : String × String × ℚ × String × String :=
  (e.instrument, e.side, e.qty, e.reqId, e.requestHash)

/-- The state of the loop of `_apply_simulator_events`. -/
structure Walk where
  state : SimulatorState
  places : Dict Int SimulatorRecord := ∅
  fills : Dict Int SimulatorRecord := ∅

def place (requireNewOrderIds : Bool) (baseMaximum : Int) (w : Walk) (e : SimulatorRecord) :
    Except String Walk :=
  match w.places.lookup e.orderId with
  | some prior =>
    if identity e ≠ identity prior then .error "OMS_SIMULATOR_STATE_PLACE_CONFLICT" else .ok w
  | none =>
    if requireNewOrderIds ∧ e.orderId ≤ baseMaximum then
      .error "OMS_SIMULATOR_STATE_ORDER_ID_REGRESSION"
    else
      .ok
        { w with
          places := w.places.insert e.orderId e
          state := { w.state with admittedOrders := w.state.admittedOrders + 1 } }

/-- A fill belongs to a placement. -/
def fits (owner e : SimulatorRecord) : Bool :=
  decide (0 < e.price) && owner.instrument = e.instrument && owner.side = e.side &&
    owner.qty = e.qty

def fill (w : Walk) (e : SimulatorRecord) : Except String Walk :=
  match w.places.lookup e.orderId with
  | none => .error "OMS_SIMULATOR_STATE_FILL_CONFLICT"
  | some owner =>
    if !fits owner e then .error "OMS_SIMULATOR_STATE_FILL_CONFLICT"
    else match w.fills.lookup e.orderId with
      | some prior =>
        if (prior.instrument, prior.side, prior.qty, prior.price) ≠
            (e.instrument, e.side, e.qty, e.price) then
          .error "OMS_SIMULATOR_STATE_FILL_CONFLICT"
        else .ok w
      | none =>
        .ok
          { w with
            fills := w.fills.insert e.orderId e
            state :=
              { w.state with
                positions := w.state.positions.insert e.instrument
                  (position w.state.positions e.instrument + signed e.side e.qty) } }

def walkStep (requireNewOrderIds : Bool) (baseMaximum : Int) (w : Walk) (e : SimulatorRecord) :
    Except String Walk :=
  if !isPlace e ∧ !isFill e then .ok w
  else
    let w :=
      { w with
        state :=
          { w.state with present := true, maxOrderId := max w.state.maxOrderId e.orderId } }
    if !validRecord e then .error "OMS_SIMULATOR_STATE_EVENT_INVALID"
    else if isPlace e then place requireNewOrderIds baseMaximum w e
    else fill w e

def applySimulatorEvents (state : SimulatorState) (events : List SimulatorRecord)
    (requireNewOrderIds : Bool) : Except String SimulatorState :=
  (events.foldlM (walkStep requireNewOrderIds state.maxOrderId) { state }).map Walk.state

/-! ### Checkpoint rows -/

def positionRow (instrument : String) (quantity : ℚ) : SimulatorRecord :=
  { event := .positionCheckpoint
    instrument
    side := if 0 < quantity then "BUY" else "SELL"
    qty := |quantity|
    status := "complete" }

/-- The row before the positions and the row after them. -/
def stateRow (kind : SimulatorKind) (state : SimulatorState) : SimulatorRecord :=
  { event := kind
    orderId := state.maxOrderId
    brokerRequestId := state.admittedOrders
    status := "complete" }

/-- The positions that are not flat, in the order of their instruments. -/
def openPositions (positions : Dict String ℚ) : List (String × ℚ) :=
  ((positions.entries.map fun entry => (entry.1, entry.2)).insertionSort
    fun a b => a.1.toList ≤ b.1.toList).filter fun entry => entry.2 ≠ 0

/-- `_simulator_state_projection`. The positions are written in the order of their
instruments. -/
def simulatorStateProjection (state : SimulatorState) : List SimulatorRecord :=
  if !state.present then []
  else
    stateRow .stateCheckpoint state ::
      (openPositions state.positions).map (fun entry => positionRow entry.1 entry.2) ++
      [stateRow .stateCheckpointReady state]

/-- The loop of `_simulator_checkpoint_from_hot`: the state read so far and whether it is
complete. -/
def checkpointStep (found : Option SimulatorState × Bool) (e : SimulatorRecord) :
    Except String (Option SimulatorState × Bool) :=
  let invalid : Except String (Option SimulatorState × Bool) :=
    .error "OMS_SIMULATOR_CHECKPOINT_INVALID"
  let foreign := e.venue ≠ "SIMULATOR" ∨ e.account ≠ "SIM"
  match e.event with
  | .stateCheckpoint =>
    if found.1.isSome ∨ found.2 ∨ foreign ∨ e.orderId < 999999 ∨ e.brokerRequestId < 0 then invalid
    else
      .ok (some { present := true, maxOrderId := e.orderId, admittedOrders := e.brokerRequestId },
        false)
  | .positionCheckpoint =>
    match found.1 with
    | none => invalid
    | some state =>
      if found.2 ∨ foreign ∨ e.instrument = "" ∨ (state.positions.lookup e.instrument).isSome ∨
          (e.side ≠ "BUY" ∧ e.side ≠ "SELL") ∨ e.qty ≤ 0 then invalid
      else
        .ok (some { state with
          positions := state.positions.insert e.instrument (signed e.side e.qty) }, false)
  | .stateCheckpointReady =>
    match found.1 with
    | none => invalid
    | some state =>
      if found.2 ∨ foreign ∨ e.orderId ≠ state.maxOrderId ∨
          e.brokerRequestId ≠ state.admittedOrders then invalid
      else .ok (some state, true)
  | _ => .ok found

def simulatorCheckpointFromHot (events : List SimulatorRecord) :
    Except String (Option SimulatorState) :=
  (events.foldlM checkpointStep (none, false)).map fun found => if found.2 then found.1 else none

/-- The loop of `_reconstruct_simulator_state`: the first segment may name any order. -/
def reconstructFrom (state : SimulatorState) (applied : Bool) :
    List (List SimulatorRecord) → Except String SimulatorState
  | [] => .ok state
  | segment :: segments => do
    let state ← applySimulatorEvents state segment applied
    reconstructFrom state true segments

def reconstructSimulatorState (segments : List (List SimulatorRecord)) :
    Except String SimulatorState :=
  reconstructFrom {} false segments

/-- The sealed segments, oldest first, and the simulator rows of the last hot replay. -/
structure Store where
  segments : List (List SimulatorRecord) := []
  rows : List SimulatorRecord := []

/-- The state that sealing goes on from. -/
def Store.parentState (store : Store) : Except String SimulatorState := do
  match ← simulatorCheckpointFromHot store.rows with
  | some state => .ok state
  | none => reconstructSimulatorState store.segments

/-- The sealed state and the records after it. -/
def Store.resume (store : Store) (tail : List SimulatorRecord) : Except String SimulatorState := do
  let state ← store.parentState
  applySimulatorEvents state tail (store.segments ≠ [])

/-- The simulator part of `seal_generation`. -/
def Store.sealGeneration (store : Store) (tail : List SimulatorRecord) : Except String Store := do
  let state ← store.resume tail
  .ok { segments := store.segments ++ [tail], rows := simulatorStateProjection state }

def sealAll (segments : List (List SimulatorRecord)) : Except String Store :=
  segments.foldlM Store.sealGeneration {}

/-! ### What a walk reaches -/

variable {st st' st'' : SimulatorState} {done events front back tail : List SimulatorRecord}
  {e : SimulatorRecord} {w : Walk} {rn : Bool} {base : Int} {instrument : String} {q : ℚ}
  {positions : Dict String ℚ} {p : SimulatorRecord → Bool} {row : String × ℚ} {store : Store}

def concerns (e : SimulatorRecord) : Bool := isPlace e || isFill e

lemma not_isFill_of_isPlace (h : isPlace e = true) : isFill e = false := by
  simp only [isPlace, Bool.and_eq_true, decide_eq_true_eq] at h
  simp [isFill, h.2]

/-- Records that agree about their orders: an order is placed once and filled once, and its fill
fits its placement. -/
structure Lawful (events : List SimulatorRecord) : Prop where
  valid : ∀ e ∈ events, concerns e = true → validRecord e = true
  places : events.Pairwise fun a b => isPlace a = true → isPlace b = true → a.orderId ≠ b.orderId
  fills : events.Pairwise fun a b => isFill a = true → isFill b = true → a.orderId ≠ b.orderId
  fits : ∀ p ∈ events, ∀ e ∈ events, isPlace p = true → isFill e = true → p.orderId = e.orderId →
    fits p e = true

lemma Lawful.sublist (h : Lawful events) (hs : done.Sublist events) : Lawful done where
  valid e he := h.valid e (hs.subset he)
  places := h.places.sublist hs
  fills := h.fills.sublist hs
  fits p hp e he := h.fits p (hs.subset hp) e (hs.subset he)

/-- Every fill comes after the placement of its order. -/
def Aligned (events : List SimulatorRecord) : Prop :=
  ∀ front e back, events = front ++ e :: back → isFill e = true →
    ∃ p ∈ front, isPlace p = true ∧ p.orderId = e.orderId

lemma aligned_append_singleton : Aligned (done ++ [e]) ↔
    Aligned done ∧ (isFill e = true → ∃ p ∈ done, isPlace p = true ∧ p.orderId = e.orderId) :=
  forall_split_append_singleton

def filled (instrument : String) (events : List SimulatorRecord) : ℚ :=
  ((events.filter fun e => isFill e && e.instrument = instrument).map fun e =>
    signed e.side e.qty).sum

lemma filled_append (instrument : String) (front back : List SimulatorRecord) :
    filled instrument (front ++ back) = filled instrument front + filled instrument back := by
  simp [filled]

def maxId (base : Int) (events : List SimulatorRecord) : Int :=
  (events.filter concerns).foldl (fun maximum e => max maximum e.orderId) base

lemma maxId_append (base : Int) (front back : List SimulatorRecord) :
    maxId base (front ++ back) = maxId (maxId base front) back := by
  simp [maxId]

/-- A state that goes on from another one with some records. -/
structure Reached (st : SimulatorState) (events : List SimulatorRecord) (st' : SimulatorState) :
    Prop where
  present : st'.present = (st.present || events.any concerns)
  maxOrderId : st'.maxOrderId = maxId st.maxOrderId events
  admitted : st'.admittedOrders = st.admittedOrders + events.countP isPlace
  positions : ∀ i, position st'.positions i = position st.positions i + filled i events

lemma Reached.refl (st : SimulatorState) : Reached st [] st where
  present := by simp
  maxOrderId := rfl
  admitted := by simp
  positions i := by simp [filled]

lemma Reached.trans (h : Reached st front st') (h' : Reached st' back st'') :
    Reached st (front ++ back) st'' where
  present := by rw [h'.present, h.present, any_append, Bool.or_assoc]
  maxOrderId := by rw [h'.maxOrderId, h.maxOrderId, maxId_append]
  admitted := by
    rw [h'.admitted, h.admitted, countP_append]
    push_cast
    ring
  positions i := by rw [h'.positions, h.positions, filled_append, add_assoc]

/-- What the loop knows after some records. -/
structure Walked (st : SimulatorState) (done : List SimulatorRecord) (w : Walk) : Prop where
  reached : Reached st done w.state
  places : ∀ id, w.places.lookup id = done.find? fun e => isPlace e && e.orderId = id
  fills : ∀ id, w.fills.lookup id = done.find? fun e => isFill e && e.orderId = id

lemma Walked.start (st : SimulatorState) : Walked st [] { state := st } where
  reached := .refl st
  places _ := rfl
  fills _ := rfl

lemma Walked.find?_place_eq_none (h : Lawful (done ++ [e])) (hp : isPlace e = true) :
    (done.find? fun b => isPlace b && b.orderId = e.orderId) = none := by
  have hd := (List.pairwise_append.mp h.places).2.2
  simp only [find?_eq_none, Bool.and_eq_true, decide_eq_true_eq, not_and]
  exact fun b hb hb' => hd b hb e (by simp) hb' hp

lemma Walked.find?_fill_eq_none (h : Lawful (done ++ [e])) (hf : isFill e = true) :
    (done.find? fun b => isFill b && b.orderId = e.orderId) = none := by
  have hd := (List.pairwise_append.mp h.fills).2.2
  simp only [find?_eq_none, Bool.and_eq_true, decide_eq_true_eq, not_and]
  exact fun b hb hb' => hd b hb e (by simp) hb' hf

lemma lookup_insert_find? {table : Dict Int SimulatorRecord}
    (ht : ∀ id, table.lookup id = done.find? fun b => p b && b.orderId = id) (hp : p e = true)
    (hnew : (done.find? fun b => p b && b.orderId = e.orderId) = none) (id : Int) :
    (table.insert e.orderId e).lookup id =
      (done ++ [e]).find? fun b => p b && b.orderId = id := by
  by_cases hi : id = e.orderId
  · subst hi
    simp [AList.lookup_insert, find?_append, hnew, hp]
  · rw [AList.lookup_insert_ne hi, ht, find?_append]
    simp [hp, Ne.symm hi]

lemma find?_append_of_not (hp : p e = false) (id : Int) :
    ((done ++ [e]).find? fun b => p b && b.orderId = id) =
      done.find? fun b => p b && b.orderId = id := by
  simp [find?_append, hp]

lemma walkStep_pass (rn : Bool) (base : Int) (h : concerns e = false) (hw : Walked st done w) :
    walkStep rn base w e = .ok w ∧ Walked st (done ++ [e]) w := by
  obtain ⟨hp, hf⟩ : isPlace e = false ∧ isFill e = false := by simpa [concerns] using h
  refine ⟨by simp [walkStep, hp, hf], hw.reached.trans ?_, ?_, ?_⟩
  · exact ⟨by simp [h], by simp [maxId, h], by simp [hp], fun i => by simp [filled, hf]⟩
  · intro id
    rw [find?_append_of_not hp, hw.places]
  · intro id
    rw [find?_append_of_not hf, hw.fills]

lemma walkStep_place (rn : Bool) (base : Int) (h : Lawful (done ++ [e]))
    (hp : isPlace e = true) (hw : Walked st done w) :
    (rn = true ∧ e.orderId ≤ base ∧ ∃ message, walkStep rn base w e = .error message) ∨
      ((rn = true → base < e.orderId) ∧
        ∃ w', walkStep rn base w e = .ok w' ∧ Walked st (done ++ [e]) w') := by
  have hf := not_isFill_of_isPlace hp
  have hvalid := h.valid e (by simp) (by simp [concerns, hp])
  have hnone := Walked.find?_place_eq_none h hp
  have hl : w.places.lookup e.orderId = none := by rw [hw.places, hnone]
  by_cases ho : rn = true ∧ e.orderId ≤ base
  · refine .inl ⟨ho.1, ho.2, "OMS_SIMULATOR_STATE_ORDER_ID_REGRESSION", ?_⟩
    simp [walkStep, hp, hvalid, place, hl, ho]
  have hs : walkStep rn base w e = .ok
      { w with
        places := w.places.insert e.orderId e
        state :=
          { w.state with
            present := true
            maxOrderId := max w.state.maxOrderId e.orderId
            admittedOrders := w.state.admittedOrders + 1 } } := by
    simp [walkStep, hp, hvalid, place, hl, ho]
  refine .inr ⟨fun hr => by_contra fun hb => ho ⟨hr, by omega⟩, _, hs, ?_⟩
  refine ⟨hw.reached.trans ?_, ?_, ?_⟩
  · exact ⟨by simp [concerns, hp], by simp [maxId, concerns, hp], by simp [hp],
      fun i => by simp [filled, hf]⟩
  · exact lookup_insert_find? hw.places hp hnone
  · intro id
    rw [find?_append_of_not hf]
    exact hw.fills id

lemma position_insert (positions : Dict String ℚ) (instrument i : String) (q : ℚ) :
    position (positions.insert instrument q) i =
      if i = instrument then q else position positions i := by
  by_cases hi : i = instrument
  · subst hi
    simp [position, AList.lookup_insert]
  · simp [position, AList.lookup_insert_ne hi, hi]

lemma walkStep_fill (rn : Bool) (base : Int) (h : Lawful (done ++ [e]))
    (hf : isFill e = true) (hw : Walked st done w) :
    ((¬∃ p ∈ done, isPlace p = true ∧ p.orderId = e.orderId) ∧
        ∃ message, walkStep rn base w e = .error message) ∨
      ((∃ p ∈ done, isPlace p = true ∧ p.orderId = e.orderId) ∧
        ∃ w', walkStep rn base w e = .ok w' ∧ Walked st (done ++ [e]) w') := by
  have hl : isPlace e = false := by
    by_contra hp
    simp [not_isFill_of_isPlace (by simpa using hp)] at hf
  have hvalid := h.valid e (by simp) (by simp [concerns, hf])
  have hnone := Walked.find?_fill_eq_none h hf
  have hfl : w.fills.lookup e.orderId = none := by rw [hw.fills, hnone]
  have hc := hw.places e.orderId
  cases hfn : done.find? fun b => isPlace b && b.orderId = e.orderId with
  | none =>
    rw [hfn] at hc
    refine .inl ⟨by simpa using hfn, "OMS_SIMULATOR_STATE_FILL_CONFLICT", ?_⟩
    simp [walkStep, hl, hf, hvalid, fill, hc]
  | some owner =>
    rw [hfn] at hc
    obtain ⟨howner, hd⟩ : isPlace owner = true ∧ owner.orderId = e.orderId := by
      simpa using find?_some hfn
    have hm := mem_of_find?_eq_some hfn
    have ht : fits owner e = true := h.fits owner (by simp [hm]) e (by simp) howner hf hd
    have hs : walkStep rn base w e = .ok
        { w with
          fills := w.fills.insert e.orderId e
          state :=
            { w.state with
              present := true
              maxOrderId := max w.state.maxOrderId e.orderId
              positions := w.state.positions.insert e.instrument
                (position w.state.positions e.instrument + signed e.side e.qty) } } := by
      simp [walkStep, hl, hf, hvalid, fill, hc, ht, hfl]
    refine .inr ⟨⟨owner, hm, howner, hd⟩, _, hs, ?_⟩
    refine ⟨hw.reached.trans ?_, ?_, ?_⟩
    · refine ⟨by simp [concerns, hf], by simp [maxId, concerns, hf], by simp [hl],
        fun i => ?_⟩
      rw [position_insert]
      by_cases hi : i = e.instrument
      · simp [filled, hf, hi]
      · simp [filled, hi, Ne.symm hi]
    · intro id
      rw [find?_append_of_not hl]
      exact hw.places id
    · exact lookup_insert_find? hw.fills hf hnone

/-- Records that a state can go on with. -/
def Continues (rn : Bool) (base : Int) (events : List SimulatorRecord) : Prop :=
  Aligned events ∧ (rn = true → ∀ e ∈ events, isPlace e = true → base < e.orderId)

lemma continues_nil (rn : Bool) (base : Int) : Continues rn base [] :=
  ⟨fun front e back hs => by simp at hs, by simp⟩

lemma continues_append_singleton : Continues rn base (done ++ [e]) ↔
    Continues rn base done ∧
      (isFill e = true → ∃ p ∈ done, isPlace p = true ∧ p.orderId = e.orderId) ∧
      (rn = true → isPlace e = true → base < e.orderId) := by
  simp only [Continues, aligned_append_singleton, mem_append, mem_singleton]
  grind

/-- The loop succeeds just when the state can go on with the records. -/
lemma walk_spec (rn : Bool) (base : Int) (st : SimulatorState) (h : Lawful events) :
    (¬Continues rn base events ∧
        ∃ message, events.foldlM (walkStep rn base) { state := st } = .error message) ∨
      (Continues rn base events ∧
        ∃ w, events.foldlM (walkStep rn base) { state := st } = .ok w ∧ Walked st events w) := by
  induction events using reverseRecOn with
  | nil => exact .inr ⟨continues_nil rn base, { state := st }, rfl, .start st⟩
  | append_singleton done e ih =>
    rw [foldlM_append, continues_append_singleton]
    rcases ih (h.sublist (sublist_append_left ..)) with
      ⟨hno, message, hfl⟩ | ⟨hd, w, hk, hw⟩
    · exact .inl ⟨fun ha => hno ha.1, message, by rw [hfl]; rfl⟩
    have hl : (done.foldlM (walkStep rn base) { state := st } >>= fun w =>
        [e].foldlM (walkStep rn base) w) = walkStep rn base w e := by
      rw [hk]
      exact bind_pure (walkStep rn base w e)
    rw [hl]
    by_cases hp : isPlace e = true
    · have hf := not_isFill_of_isPlace hp
      rcases walkStep_place rn base h hp hw with ⟨hr, hold, hfl⟩ | ⟨hnw, hk'⟩
      · exact .inl ⟨fun ha => absurd (ha.2.2 hr hp) (by omega), hfl⟩
      · exact .inr ⟨⟨hd, by simp [hf], fun hr _ => hnw hr⟩, hk'⟩
    · by_cases hf : isFill e = true
      · rcases walkStep_fill rn base h hf hw with ⟨hno, hfl⟩ | ⟨ho, hk'⟩
        · exact .inl ⟨fun ha => hno (ha.2.1 hf), hfl⟩
        · exact .inr ⟨⟨hd, fun _ => ho, by simp [hp]⟩, hk'⟩
      · obtain ⟨hs, hw'⟩ := walkStep_pass rn base
          (by simpa [concerns] using And.intro hp hf) hw
        exact .inr ⟨⟨hd, by simp [hf], by simp [hp]⟩, w, hs, hw'⟩

lemma applySimulatorEvents_spec (st : SimulatorState) (rn : Bool) (h : Lawful events) :
    (¬Continues rn st.maxOrderId events ∧
        ∃ message, applySimulatorEvents st events rn = .error message) ∨
      (Continues rn st.maxOrderId events ∧
        ∃ st', applySimulatorEvents st events rn = .ok st' ∧ Reached st events st') := by
  unfold applySimulatorEvents
  rcases walk_spec rn st.maxOrderId st h with ⟨ho, message, hf⟩ | ⟨hy, w, hk, hw⟩
  · exact .inl ⟨ho, message, by rw [hf]; rfl⟩
  · exact .inr ⟨hy, w.state, by rw [hk]; rfl, hw.reached⟩

/-! ### Reading the rows back -/

structure Same (st st' : SimulatorState) : Prop where
  present : st'.present = st.present
  maxOrderId : st'.maxOrderId = st.maxOrderId
  admitted : st'.admittedOrders = st.admittedOrders
  positions : ∀ i, position st'.positions i = position st.positions i

lemma Reached.of_same (h : Reached st events st') (hs : Same st' st'') : Reached st events st'' where
  present := by rw [hs.present, h.present]
  maxOrderId := by rw [hs.maxOrderId, h.maxOrderId]
  admitted := by rw [hs.admitted, h.admitted]
  positions i := by rw [hs.positions, h.positions]

lemma Reached.same (h : Reached st events st') (h' : Reached st events st'') : Same st' st'' where
  present := by rw [h'.present, h.present]
  maxOrderId := by rw [h'.maxOrderId, h.maxOrderId]
  admitted := by rw [h'.admitted, h.admitted]
  positions i := by rw [h'.positions, h.positions]

lemma signed_row (q : ℚ) (hq : q ≠ 0) : signed (if 0 < q then "BUY" else "SELL") |q| = q := by
  by_cases hpos : 0 < q
  · simp [signed, hpos, abs_of_pos]
  · have hg : q < 0 := lt_of_le_of_ne (not_lt.mp hpos) hq
    simp [signed, hpos, abs_of_neg hg]

lemma checkpointStep_position (hk : (st.positions.lookup instrument) = none)
    (hm : instrument ≠ "") (hq : q ≠ 0) :
    checkpointStep (some st, false) (positionRow instrument q) =
      .ok (some { st with positions := st.positions.insert instrument q }, false) := by
  have hs : (if 0 < q then "BUY" else "SELL") = "BUY" ∨
      (if 0 < q then "BUY" else "SELL") = "SELL" := by
    by_cases hp : 0 < q <;> simp [hp]
  simp only [checkpointStep, positionRow, hk, signed_row q hq]
  rcases hs with hs | hs <;> simp [hs, hm, hq]

lemma foldlM_positionRow (rows : List (String × ℚ)) (st : SimulatorState)
    (hk : (rows.map Prod.fst).Nodup) (hnw : ∀ row ∈ rows, st.positions.lookup row.1 = none)
    (hw : ∀ row ∈ rows, row.1 ≠ "" ∧ row.2 ≠ 0) :
    ∃ positions, (rows.map fun row => positionRow row.1 row.2).foldlM checkpointStep
        (some st, false) = .ok (some { st with positions }, false) ∧
      (∀ row ∈ rows, position positions row.1 = row.2) ∧
      ∀ i ∉ rows.map Prod.fst, position positions i = position st.positions i := by
  induction rows generalizing st with
  | nil => exact ⟨st.positions, rfl, by simp, by simp⟩
  | cons row rows ih =>
    obtain ⟨hfr, hk⟩ := List.nodup_cons.mp hk
    have he : ∀ r ∈ rows, r.1 ≠ row.1 := fun r hr heq => hfr (heq ▸ mem_map_of_mem hr)
    obtain ⟨positions, hf, hh, hs⟩ := ih
      { st with positions := st.positions.insert row.1 row.2 } hk
      (fun r hr => by
        rw [AList.lookup_insert_ne (he r hr)]
        exact hnw r (by simp [hr]))
      (fun r hr => hw r (by simp [hr]))
    refine ⟨positions, ?_, ?_, ?_⟩
    · rw [map_cons, foldlM_cons, checkpointStep_position (hnw row (by simp))
        (hw row (by simp)).1 (hw row (by simp)).2]
      exact hf
    · intro r hr
      rcases List.mem_cons.mp hr with rfl | hr
      · rw [hs _ hfr, position_insert, if_pos rfl]
      · exact hh r hr
    · intro i hi
      rw [map_cons, mem_cons, not_or] at hi
      rw [hs i hi.2, position_insert, if_neg hi.1]

lemma mem_openPositions :
    row ∈ openPositions positions ↔ positions.lookup row.1 = some row.2 ∧ row.2 ≠ 0 := by
  obtain ⟨i, q⟩ := row
  rw [openPositions, mem_filter, mem_insertionSort, List.mem_map]
  simp only [decide_eq_true_eq, ← Option.mem_def, AList.mem_lookup_iff]
  refine and_congr_left fun _ => ⟨?_, fun h => ⟨⟨i, q⟩, h, rfl⟩⟩
  rintro ⟨⟨_, _⟩, hm, heq⟩
  cases heq
  exact hm

lemma nodup_openPositions (positions : Dict String ℚ) :
    ((openPositions positions).map Prod.fst).Nodup := by
  refine List.Nodup.sublist (List.filter_sublist.map _) ?_
  rw [((perm_insertionSort _ _).map Prod.fst).nodup_iff, map_map]
  exact positions.nodupKeys

lemma position_of_mem_openPositions
    (hr : row ∈ openPositions positions) : position positions row.1 = row.2 := by
  simp [position, (mem_openPositions.mp hr).1]

lemma position_eq_of_rows {rows : Dict String ℚ}
    (hh : ∀ row ∈ openPositions positions, position rows row.1 = row.2)
    (hs : ∀ i ∉ (openPositions positions).map Prod.fst, position rows i = 0) (i : String) :
    position rows i = position positions i := by
  by_cases hi : i ∈ (openPositions positions).map Prod.fst
  · obtain ⟨row, hr, rfl⟩ := List.mem_map.mp hi
    rw [hh row hr, position_of_mem_openPositions hr]
  rw [hs i hi]
  by_contra hq
  cases hl : positions.lookup i with
  | none => simp [position, hl] at hq
  | some q =>
    have ho : (i, q) ∈ openPositions positions :=
      mem_openPositions.mpr ⟨hl, by simpa [position, hl, eq_comm] using hq⟩
    exact hi (mem_map_of_mem ho)

lemma checkpoint_roundtrip (hp : st.present = true) (hm : 999999 ≤ st.maxOrderId)
    (ha : 0 ≤ st.admittedOrders) (hnm : position st.positions "" = 0) :
    ∃ st', simulatorCheckpointFromHot (simulatorStateProjection st) = .ok (some st') ∧
      Same st st' := by
  set opened : SimulatorState :=
    { present := true, maxOrderId := st.maxOrderId, admittedOrders := st.admittedOrders }
  obtain ⟨positions, hf, hh, hs⟩ := foldlM_positionRow (openPositions st.positions) opened
    (nodup_openPositions _) (fun _ _ => rfl) (fun row hr => by
      have hq := (mem_openPositions.mp hr).2
      refine ⟨fun he => hq ?_, hq⟩
      rw [← position_of_mem_openPositions hr, he, hnm])
  refine ⟨{ opened with positions }, ?_, hp.symm, rfl, rfl, position_eq_of_rows hh hs⟩
  have ht : checkpointStep (none, false) (stateRow .stateCheckpoint st) =
      .ok (some opened, false) := by
    simp [checkpointStep, stateRow, opened, not_lt.mpr hm, not_lt.mpr ha]
  have hd : checkpointStep (some { opened with positions }, false)
      (stateRow .stateCheckpointReady st) = .ok (some { opened with positions }, true) := by
    simp [checkpointStep, stateRow, opened]
  rw [simulatorCheckpointFromHot, simulatorStateProjection, if_neg (by simp [hp]),
    cons_append, foldlM_cons, ht]
  change Except.map _ (List.foldlM _ _ (_ ++ _)) = _
  rw [foldlM_append, hf]
  change Except.map _ (checkpointStep _ _ >>= pure) = _
  rw [hd]
  rfl

/-! ### Sealing -/

lemma le_maxId (base : Int) (events : List SimulatorRecord) : base ≤ maxId base events := by
  induction events using reverseRecOn with
  | nil => exact le_refl base
  | append_singleton done e ih =>
    rw [maxId_append]
    by_cases he : concerns e = true
    · simpa [maxId, he] using .inl ih
    · simpa [maxId, he] using ih

lemma maxId_lt_iff {bound : Int} : maxId base events < bound ↔
    base < bound ∧ ∀ e ∈ events, concerns e = true → e.orderId < bound := by
  induction events using reverseRecOn with
  | nil => simp [maxId]
  | append_singleton done e ih =>
    have hl : maxId base (done ++ [e]) < bound ↔
        maxId base done < bound ∧ (concerns e = true → e.orderId < bound) := by
      rw [maxId_append]
      by_cases he : concerns e = true
      · simp [maxId, he]
      · simp [maxId, he]
    rw [hl, ih]
    grind

lemma filled_empty (h : Lawful events) : filled "" events = 0 := by
  have hnn : (events.filter fun e => isFill e && e.instrument = "") = [] := by
    simp only [filter_eq_nil_iff, Bool.and_eq_true, decide_eq_true_eq, not_and]
    intro e he hf hm
    have hvalid := h.valid e he (by simp [concerns, hf])
    simp [validRecord, hm] at hvalid
  simp [filled, hnn]

lemma Reached.roundtrip (h : Reached {} events st) (hl : Lawful events)
    (hp : st.present = true) :
    ∃ st', simulatorCheckpointFromHot (simulatorStateProjection st) = .ok (some st') ∧
      Reached {} events st' := by
  obtain ⟨st', hr, hs⟩ := checkpoint_roundtrip hp
    (by rw [h.maxOrderId]; exact le_maxId _ _)
    (by rw [h.admitted]; simp)
    (by rw [h.positions, filled_empty hl, add_zero]; rfl)
  exact ⟨st', hr, h.of_same hs⟩

/-- Sealed rows that say what the sealed records say. -/
def Store.Carries (store : Store) : Prop :=
  ∃ st, Reached {} store.segments.flatten st ∧ store.rows = simulatorStateProjection st

lemma continues_of_not_concerns (h : events.any concerns = false) : Continues rn base events := by
  have hnn : ∀ e ∈ events, isPlace e = false ∧ isFill e = false := by
    simpa [concerns] using h
  refine ⟨fun front e back hs hf => ?_, fun _ e he hp => ?_⟩
  · simp [(hnn e (by simp [hs])).2] at hf
  · simp [(hnn e he).1] at hp

variable (segments : List (List SimulatorRecord))

/-- Segments without orders are read from the journal again. -/
lemma reconstructFrom_idle (applied : Bool) (st : SimulatorState)
    (h : segments.flatten.any concerns = false) (hl : Lawful segments.flatten) : ∃ st',
    reconstructFrom st applied segments = .ok st' ∧ Reached st segments.flatten st' := by
  induction segments generalizing st applied with
  | nil => exact ⟨st, rfl, .refl st⟩
  | cons segment segments ih =>
    rw [flatten_cons, any_append, Bool.or_eq_false_iff] at h
    rcases applySimulatorEvents_spec st applied
        (hl.sublist (by simp : segment.Sublist _)) with ⟨ho, -⟩ | ⟨-, st₁, ha, hr⟩
    · exact absurd (continues_of_not_concerns h.1) ho
    obtain ⟨st', hs, hr'⟩ := ih true st₁ h.2 (hl.sublist (by simp))
    refine ⟨st', ?_, hr.trans hr'⟩
    rw [reconstructFrom, ha]
    exact hs

lemma Store.parentState_spec (hc : store.Carries) (hl : Lawful store.segments.flatten) : ∃ st,
    store.parentState = .ok st ∧ Reached {} store.segments.flatten st := by
  obtain ⟨st, hr, hw⟩ := hc
  by_cases hp : st.present = true
  · obtain ⟨st', hd, hr'⟩ := hr.roundtrip hl hp
    refine ⟨st', ?_, hr'⟩
    rw [parentState, hw, hd]
    rfl
  · have hi : store.segments.flatten.any concerns = false := by
      simpa [hr.present] using hp
    obtain ⟨st', hd, hr'⟩ := reconstructFrom_idle store.segments false {} hi hl
    refine ⟨st', ?_, hr'⟩
    rw [parentState, hw, simulatorStateProjection, if_pos (by simpa using hp)]
    exact hd

lemma Store.resume_spec (hc : store.Carries)
    (hl : Lawful (store.segments.flatten ++ tail)) :
    (¬Continues (store.segments ≠ []) (maxId 999999 store.segments.flatten) tail ∧
        ∃ message, store.resume tail = .error message) ∨
      (Continues (store.segments ≠ []) (maxId 999999 store.segments.flatten) tail ∧
        ∃ st, store.resume tail = .ok st ∧ Reached {} (store.segments.flatten ++ tail) st) := by
  obtain ⟨st, hp, hr⟩ := parentState_spec hc (hl.sublist (by simp))
  have hs : store.resume tail = applySimulatorEvents st tail (store.segments ≠ []) := by
    rw [resume, hp]
    rfl
  rw [hs, ← hr.maxOrderId]
  rcases applySimulatorEvents_spec st (store.segments ≠ [])
      (hl.sublist (sublist_append_right _ tail)) with hf | ⟨hy, st', ha, hr'⟩
  · exact .inl hf
  · exact .inr ⟨hy, st', ha, hr.trans hr'⟩

/-- Parts that can be sealed one after another. -/
def Seals (parts : List (List SimulatorRecord)) : Prop :=
  ∀ front part back, parts = front ++ part :: back →
    Continues (front ≠ []) (maxId 999999 front.flatten) part

lemma seals_append_singleton {parts : List (List SimulatorRecord)} {part : List SimulatorRecord} :
    Seals (parts ++ [part]) ↔
      Seals parts ∧ Continues (parts ≠ []) (maxId 999999 parts.flatten) part :=
  forall_split_append_singleton

lemma sealAll_append_singleton (segment : List SimulatorRecord) :
    sealAll (segments ++ [segment]) = sealAll segments >>= fun store =>
      store.sealGeneration segment := by
  simp [sealAll]

lemma sealAll_spec (hl : Lawful segments.flatten) :
    (¬Seals segments ∧ ∃ message, sealAll segments = .error message) ∨
      (Seals segments ∧
        ∃ store, sealAll segments = .ok store ∧ store.segments = segments ∧ store.Carries) := by
  induction segments using reverseRecOn with
  | nil =>
    refine .inr ⟨fun front part back hs => by simp at hs, {}, rfl, rfl, {}, .refl _, rfl⟩
  | append_singleton segments segment ih =>
    rw [seals_append_singleton, sealAll_append_singleton]
    rw [flatten_append, flatten_singleton] at hl
    rcases ih (hl.sublist (by simp)) with ⟨ho, message, hf⟩ | ⟨hy, store, hk, rfl, hc⟩
    · exact .inl ⟨fun h => ho h.1, message, by rw [hf]; rfl⟩
    rw [hk]
    change (_ ∧ ∃ message, store.sealGeneration segment = _) ∨
      (_ ∧ ∃ store', store.sealGeneration segment = _ ∧ _)
    rw [Store.sealGeneration]
    rcases Store.resume_spec hc hl with ⟨ho, message, hf⟩ | ⟨hy', st, hrs, hr⟩
    · exact .inl ⟨fun h => ho h.2, message, by rw [hf]; rfl⟩
    · refine .inr ⟨⟨hy, hy'⟩, _, by rw [hrs]; rfl, rfl, st, ?_, rfl⟩
      simpa using hr

def Survives (tail : List SimulatorRecord) : Prop :=
  ∃ store st whole, sealAll segments = .ok store ∧ store.resume tail = .ok st ∧
    applySimulatorEvents {} (segments.flatten ++ tail) false = .ok whole ∧ Same whole st

lemma survives_iff {segments : List (List SimulatorRecord)}
    (hl : Lawful (segments.flatten ++ tail)) (ha : Aligned (segments.flatten ++ tail)) :
    Survives segments tail ↔ Seals (segments ++ [tail]) := by
  rw [seals_append_singleton]
  constructor
  · rintro ⟨store, st, whole, hs, hr, -, -⟩
    rcases sealAll_spec segments (hl.sublist (by simp)) with
      ⟨-, message, hf⟩ | ⟨hy, store', hk, rfl, hc⟩
    · simp [hf] at hs
    obtain rfl : store' = store := by simpa [hk] using hs
    rcases Store.resume_spec hc hl with ⟨-, _, hf⟩ | ⟨hy', -⟩
    · simp [hf] at hr
    · exact ⟨hy, hy'⟩
  · rintro ⟨hg, ht⟩
    rcases sealAll_spec segments (hl.sublist (by simp)) with
      ⟨ho, -⟩ | ⟨-, store, hk, rfl, hc⟩
    · exact absurd hg ho
    rcases Store.resume_spec hc hl with ⟨ho, -⟩ | ⟨-, st, hr, hrc⟩
    · exact absurd ht ho
    rcases applySimulatorEvents_spec {} false hl with ⟨ho, -⟩ | ⟨-, whole, hp, hw⟩
    · exact absurd ⟨ha, by simp⟩ ho
    · exact ⟨store, st, whole, hk, hr, hp, hw.same hrc⟩

end Simulator

end Hepta
