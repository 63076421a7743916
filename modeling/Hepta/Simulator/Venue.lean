import Hepta.Simulator.Checkpoint

/-!
# What the simulator venue writes

The venue hands out ids in the order of the reservations; `place_sent` is written when the venue has
answered, so two placements may be written in the other order. An order is activated after its
`place_sent`, and `Process` fills an activated order at most once. A restart forgets the orders and
goes on above the largest id of the journal.
-/

namespace Hepta

open List

namespace Simulator

/-- An order that the risk check of the venue has let through. -/
structure VenueRequest where
  instrument : String
  side : String
  qty : ℚ
  reqId : String := ""
  requestHash : String := ""
  named : instrument ≠ ""
  sided : side = "BUY" ∨ side = "SELL"
  qty_pos : 0 < qty

structure VenueOrder where
  request : VenueRequest
  /-- The coordinator has written `place_sent`. -/
  sent : Bool := false
  activated : Bool := false
  terminal : Bool := false

/-- The venue and what has been written: the runs that are over and the current one. -/
structure Venue where
  nextOrderId : Int := 1000000
  orders : Dict Int VenueOrder := ∅
  sessions : List (List SimulatorRecord) := []
  current : List SimulatorRecord := []

def placeRecord (orderId : Int) (request : VenueRequest) : SimulatorRecord :=
  { event := .placeSent
    orderId
    reqId := request.reqId
    requestHash := request.requestHash
    instrument := request.instrument
    side := request.side
    qty := request.qty }

def fillRecord (orderId : Int) (request : VenueRequest) (price : ℚ) : SimulatorRecord :=
  { event := .status
    orderId
    reqId := "sim-status-" ++ toString orderId ++ "-Filled"
    instrument := request.instrument
    side := request.side
    qty := request.qty
    price
    status := "Filled" }

inductive VenueAction where
  | reserve (request : VenueRequest)
  | recordSent (orderId : Int)
  | activate (orderId : Int)
  /-- The order is cancelled or rejected, or its fill is not written. -/
  | finish (orderId : Int)
  | fill (orderId : Int) (price : ℚ)
  | note (record : SimulatorRecord)
  | restart (nextOrderId : Int)

namespace Venue

def journal (v : Venue) : List SimulatorRecord := v.sessions.flatten ++ v.current

def update (v : Venue) (orderId : Int) (may : VenueOrder → Bool)
    (change : VenueOrder → VenueOrder) (records : VenueOrder → List SimulatorRecord) : Venue :=
  match v.orders.lookup orderId with
  | none => v
  | some order =>
    if may order then
      { v with
        orders := v.orders.insert orderId (change order)
        current := v.current ++ records order }
    else v

def step (v : Venue) : VenueAction → Venue
  | .reserve request =>
    { v with
      nextOrderId := v.nextOrderId + 1
      orders := v.orders.insert v.nextOrderId { request } }
  | .recordSent orderId =>
    v.update orderId (fun order => !order.sent) (fun order => { order with sent := true })
      fun order => [placeRecord orderId order.request]
  | .activate orderId =>
    v.update orderId (fun order => order.sent && !order.terminal)
      (fun order => { order with activated := true }) fun _ => []
  | .finish orderId =>
    v.update orderId (fun order => !order.terminal) (fun order => { order with terminal := true })
      fun _ => []
  | .fill orderId price =>
    v.update orderId (fun order => order.activated && !order.terminal && decide (0 < price))
      (fun order => { order with terminal := true })
      fun order => [fillRecord orderId order.request price]
  | .note record => if concerns record then v else { v with current := v.current ++ [record] }
  | .restart nextOrderId =>
    if maxId 999999 v.journal < nextOrderId then
      { nextOrderId, sessions := v.sessions ++ [v.current] }
    else v

def run (v : Venue) (actions : List VenueAction) : Venue := actions.foldl step v

end Venue

/-! ### One more record -/

variable {J : List SimulatorRecord} {e : SimulatorRecord} {parts : List (List SimulatorRecord)}

lemma pairwise_append_of_forall {p : SimulatorRecord → Bool}
    (h : J.Pairwise fun a b => p a = true → p b = true → a.orderId ≠ b.orderId)
    (hw : p e = true → ∀ b ∈ J, p b = true → b.orderId ≠ e.orderId) :
    (J ++ [e]).Pairwise fun a b => p a = true → p b = true → a.orderId ≠ b.orderId := by
  rw [pairwise_append]
  refine ⟨h, pairwise_singleton _ _, fun b hb c hc hp hpc => ?_⟩
  obtain rfl : c = e := by simpa using hc
  exact hw hpc b hb hp

lemma Lawful.append (h : Lawful J) (hv : concerns e = true → validRecord e = true)
    (hpl : isPlace e = true → (∀ b ∈ J, isPlace b = true → b.orderId ≠ e.orderId) ∧
        ∀ b ∈ J, isFill b = true → b.orderId ≠ e.orderId)
    (hl : isFill e = true → (∀ b ∈ J, isFill b = true → b.orderId ≠ e.orderId) ∧
        ∀ b ∈ J, isPlace b = true → b.orderId = e.orderId → Simulator.fits b e = true) :
    Lawful (J ++ [e]) where
  valid b hb := by
    rcases List.mem_append.mp hb with hb | hb
    · exact h.valid b hb
    · obtain rfl : b = e := by simpa using hb
      exact hv
  places := pairwise_append_of_forall h.places fun he => (hpl he).1
  fills := pairwise_append_of_forall h.fills fun he => (hl he).1
  fits p hp f hf hpp hff hi := by
    rcases List.mem_append.mp hp with hpJ | hpe <;> rcases List.mem_append.mp hf with hJ | hfe
    · exact h.fits p hpJ f hJ hpp hff hi
    · obtain rfl : f = e := by simpa using hfe
      exact (hl hff).2 p hpJ hpp hi
    · obtain rfl : p = e := by simpa using hpe
      exact absurd hi.symm ((hpl hpp).2 f hJ hff)
    · obtain rfl : p = e := by simpa using hpe
      obtain rfl : f = p := by simpa using hfe
      simp [not_isFill_of_isPlace hpp] at hff

lemma Lawful.place_unique (h : Lawful J) {p p' : SimulatorRecord} (hp : p ∈ J) (hp' : p' ∈ J)
    (hl : isPlace p = true) (hl' : isPlace p' = true) (hi : p.orderId = p'.orderId) : p = p' := by
  by_contra he
  have : Std.Symm fun a b : SimulatorRecord =>
      isPlace a = true → isPlace b = true → a.orderId ≠ b.orderId :=
    ⟨fun a b hab hb ha => (hab ha hb).symm⟩
  exact h.places.forall hp hp' he hl hl' hi

lemma Aligned.append {K : List SimulatorRecord} (h : Aligned J) (h' : Aligned K) :
    Aligned (J ++ K) := by
  induction K using reverseRecOn with
  | nil => simpa using h
  | append_singleton K e ih =>
    rw [aligned_append_singleton] at h'
    rw [← append_assoc, aligned_append_singleton]
    refine ⟨ih h'.1, fun hf => ?_⟩
    obtain ⟨p, hp, ho⟩ := h'.2 hf
    exact ⟨p, by simp [hp], ho⟩

lemma Seals.aligned (h : Seals parts) : Aligned parts.flatten := by
  induction parts using reverseRecOn with
  | nil => exact (continues_nil false 0).1
  | append_singleton parts part ih =>
    rw [seals_append_singleton] at h
    rw [flatten_append, flatten_singleton]
    exact (ih h.1).append h.2.1

/-! ### What the venue keeps -/

variable (id : Int) (r : VenueRequest)

@[simp] lemma isPlace_placeRecord : isPlace (placeRecord id r) = true := by
  simp [isPlace, placeRecord]

variable (price : ℚ)

@[simp] lemma isPlace_fillRecord : isPlace (fillRecord id r price) = false := by
  simp [isPlace, fillRecord]

lemma validRecord_placeRecord (hi : 0 ≤ id) : validRecord (placeRecord id r) = true := by
  rcases r.sided with hs | hs <;>
    simp [validRecord, placeRecord, hi, r.named, r.qty_pos, hs]

lemma validRecord_fillRecord (hi : 0 ≤ id) : validRecord (fillRecord id r price) = true := by
  rcases r.sided with hs | hs <;>
    simp [validRecord, fillRecord, hi, r.named, r.qty_pos, hs]

lemma fits_placeRecord_fillRecord (hp : 0 < price) : fits (placeRecord id r)
    (fillRecord id r price) = true := by
  simp [fits, placeRecord, fillRecord, hp]

namespace Venue

variable {v : Venue} {id : Int} {order order' : VenueOrder}

/-- What the journal says about an order of the current run. -/
structure Tracked (v : Venue) (id : Int) (order : VenueOrder) : Prop where
  id_pos : 999999 < id
  id_lt : id < v.nextOrderId
  past : ∀ e ∈ v.sessions.flatten, concerns e = true → e.orderId < id
  sent : order.sent = true → placeRecord id order.request ∈ v.current
  unsent : order.sent = false → ∀ e ∈ v.journal, isPlace e = true → e.orderId ≠ id
  unfilled : order.terminal = false → ∀ e ∈ v.journal, isFill e = true → e.orderId ≠ id
  activated : order.activated = true → order.sent = true

/-- What holds in every state of the venue. -/
structure Written (v : Venue) : Prop where
  next : 999999 < v.nextOrderId
  records : ∀ e ∈ v.journal, concerns e = true → 999999 < e.orderId ∧ e.orderId < v.nextOrderId
  orders : ∀ id order, v.orders.lookup id = some order → v.Tracked id order
  lawful : Lawful v.journal
  seals : Seals (v.sessions ++ [v.current])

lemma Written.aligned (h : v.Written) : Aligned v.journal := by
  simpa [journal] using h.seals.aligned

lemma Written.ne_of_isFill (h : v.Written) (ht : v.Tracked id order) (hsn : order.sent = false)
    (e : SimulatorRecord) (he : e ∈ v.journal) (hf : isFill e = true) : e.orderId ≠ id := by
  obtain ⟨front, back, hs⟩ := append_of_mem he
  obtain ⟨p, hp, hl, hi⟩ := h.aligned front e back hs hf
  rw [← hi]
  exact ht.unsent hsn p (by simp [hs, hp]) hl

lemma journal_append (records : List SimulatorRecord) (orders : Dict Int VenueOrder) :
    ({ v with orders, current := v.current ++ records } : Venue).journal =
      v.journal ++ records := by
  simp [journal]

lemma Tracked.append (ht : v.Tracked id order) (orders : Dict Int VenueOrder)
    (ho : concerns e = true → e.orderId ≠ id) :
    ({ v with orders, current := v.current ++ [e] } : Venue).Tracked id order where
  id_pos := ht.id_pos
  id_lt := ht.id_lt
  past := ht.past
  sent hs := mem_append_left _ (ht.sent hs)
  unsent hs b hb hp := by
    rw [journal_append, mem_append, mem_singleton] at hb
    rcases hb with hb | rfl
    · exact ht.unsent hs b hb hp
    · exact ho (by simp [concerns, hp])
  unfilled hr b hb hf := by
    rw [journal_append, mem_append, mem_singleton] at hb
    rcases hb with hb | rfl
    · exact ht.unfilled hr b hb hf
    · exact ho (by simp [concerns, hf])
  activated := ht.activated

lemma Written.append (h : v.Written) (orders : Dict Int VenueOrder)
    (hi : concerns e = true → 999999 < e.orderId ∧ e.orderId < v.nextOrderId ∧
      ∀ b ∈ v.sessions.flatten, concerns b = true → b.orderId < e.orderId)
    (hl : Lawful (v.journal ++ [e]))
    (hf : isFill e = true → ∃ p ∈ v.current, isPlace p = true ∧ p.orderId = e.orderId)
    (ho : ∀ id order, orders.lookup id = some order →
      ({ v with orders, current := v.current ++ [e] } : Venue).Tracked id order) :
    ({ v with orders, current := v.current ++ [e] } : Venue).Written where
  next := h.next
  records b hb hc := by
    rw [journal_append, mem_append, mem_singleton] at hb
    rcases hb with hb | rfl
    · exact h.records b hb hc
    · exact ⟨(hi hc).1, (hi hc).2.1⟩
  orders := ho
  lawful := by rwa [journal_append]
  seals := by
    have hs := h.seals
    rw [seals_append_singleton] at hs ⊢
    refine ⟨hs.1, continues_append_singleton.mpr ⟨hs.2, hf, fun _ hp => ?_⟩⟩
    have hc : concerns e = true := by simp [concerns, hp]
    exact maxId_lt_iff.mpr ⟨(hi hc).1, (hi hc).2.2⟩

lemma Written.start : ({} : Venue).Written where
  next := by decide
  records := by simp [journal]
  orders id order h := by simp at h
  lawful := ⟨by simp [journal], .nil, .nil, by simp [journal]⟩
  seals := by
    rw [seals_append_singleton]
    exact ⟨fun front part back hs => by simp at hs, continues_nil _ _⟩

lemma forall_lookup_insert {orders : Dict Int VenueOrder} {motive : Int → VenueOrder → Prop}
    (hw : motive id order') (hl : ∀ i o, i ≠ id → orders.lookup i = some o → motive i o) :
    ∀ i o, (orders.insert id order').lookup i = some o → motive i o := by
  intro i o ho
  by_cases hi : i = id
  · subst hi
    obtain rfl : order' = o := by simpa [AList.lookup_insert] using ho
    exact hw
  · rw [AList.lookup_insert_ne hi] at ho
    exact hl i o hi ho

variable (h : v.Written)

include h

lemma Written.replace (ht : v.Tracked id order') :
    ({ v with orders := v.orders.insert id order' } : Venue).Written where
  next := h.next
  records := h.records
  orders := forall_lookup_insert ⟨ht.1, ht.2, ht.3, ht.4, ht.5, ht.6, ht.7⟩ fun i o _ ho =>
    have ho := h.orders i o ho
    ⟨ho.1, ho.2, ho.3, ho.4, ho.5, ho.6, ho.7⟩
  lawful := h.lawful
  seals := h.seals

lemma Written.reserve (request : VenueRequest) :
    (v.step (.reserve request)).Written where
  next := by have := h.next; simp only [step]; omega
  records e he hc := by
    have := h.records e he hc
    simp only [step]
    omega
  orders := by
    refine forall_lookup_insert ?_ fun i o _ ho => ?_
    · refine ⟨h.next, by simp [step], fun e he hc => ?_, by simp, fun _ e he hp => ?_,
        fun _ e he hf => ?_, by simp⟩
      · exact (h.records e (mem_append_left _ he) hc).2
      · exact (h.records e he (by simp [concerns, hp])).2.ne
      · exact (h.records e he (by simp [concerns, hf])).2.ne
    · have ho := h.orders i o ho
      exact ⟨ho.id_pos, by have := ho.id_lt; simp only [step]; omega, ho.past, ho.sent, ho.unsent,
        ho.unfilled, ho.activated⟩
  lawful := h.lawful
  seals := h.seals

lemma Written.update {may : VenueOrder → Bool} {change : VenueOrder → VenueOrder}
    {records : VenueOrder → List SimulatorRecord}
    (hy : ∀ order, v.orders.lookup id = some order → may order = true →
      ({ v with
        orders := v.orders.insert id (change order)
        current := v.current ++ records order } : Venue).Written) :
    (v.update id may change records).Written := by
  unfold Venue.update
  cases hl : v.orders.lookup id with
  | none => exact h
  | some order =>
    dsimp only
    split
    next hm => exact hy order hl hm
    next => exact h

lemma Written.recordSent (id : Int) : (v.step (.recordSent id)).Written := by
  refine h.update fun order hl hm => ?_
  have ht := h.orders id order hl
  have hs : order.sent = false := by simpa using hm
  have hu := h.ne_of_isFill ht hs
  refine h.append (e := placeRecord id order.request) _ (fun _ => ⟨ht.id_pos, ht.id_lt, ht.past⟩)
    ?_ ?_ (forall_lookup_insert ?_ ?_)
  · refine h.lawful.append (fun _ => validRecord_placeRecord _ _ ?_) (fun _ => ⟨?_, ?_⟩) ?_
    · have := ht.id_pos
      omega
    · exact ht.unsent hs
    · exact hu
    · simp [not_isFill_of_isPlace]
  · simp [not_isFill_of_isPlace]
  · refine ⟨ht.id_pos, ht.id_lt, ht.past, by simp, by simp, fun _ e he hf => ?_, by simp⟩
    rw [journal_append, mem_append, mem_singleton] at he
    rcases he with he | rfl
    · exact hu e he hf
    · simp [not_isFill_of_isPlace] at hf
  · intro i o hi ho
    exact (h.orders i o ho).append _ fun _ => hi.symm

lemma Written.fill (id : Int) (price : ℚ) : (v.step (.fill id price)).Written := by
  refine h.update fun order hl hm => ?_
  have ht := h.orders id order hl
  obtain ⟨⟨ha, htr⟩, hr⟩ :
      (order.activated = true ∧ order.terminal = false) ∧ 0 < price := by simpa using hm
  have hc := ht.sent (ht.activated ha)
  have hpa : placeRecord id order.request ∈ v.journal := mem_append_right _ hc
  refine h.append (e := fillRecord id order.request price) _
    (fun _ => ⟨ht.id_pos, ht.id_lt, ht.past⟩) ?_
    (fun _ => ⟨_, hc, by simp, rfl⟩) (forall_lookup_insert ?_ ?_)
  · refine h.lawful.append (fun _ => validRecord_fillRecord _ _ _ ?_) (by simp)
      (fun _ => ⟨ht.unfilled htr, fun p hp hpl hd => ?_⟩)
    · have := ht.id_pos
      omega
    · obtain rfl := h.lawful.place_unique hp hpa hpl (by simp) hd
      exact fits_placeRecord_fillRecord id order.request price hr
  · refine ⟨ht.id_pos, ht.id_lt, ht.past, fun _ => mem_append_left _ hc, ?_, by simp,
      fun _ => ht.activated ha⟩
    intro hs
    simp [ht.activated ha] at hs
  · intro i o hi ho
    exact (h.orders i o ho).append _ fun _ => hi.symm

lemma Written.activate (id : Int) : (v.step (.activate id)).Written := by
  refine h.update fun order hl hm => ?_
  have ht := h.orders id order hl
  obtain ⟨hs, -⟩ : order.sent = true ∧ order.terminal = false := by simpa using hm
  rw [append_nil]
  exact h.replace ⟨ht.1, ht.2, ht.3, ht.4, ht.5, ht.6, fun _ => hs⟩

lemma Written.finish (id : Int) : (v.step (.finish id)).Written := by
  refine h.update fun order hl _ => ?_
  have ht := h.orders id order hl
  rw [append_nil]
  exact h.replace ⟨ht.1, ht.2, ht.3, ht.4, ht.5, by simp, ht.7⟩

lemma Written.note (e : SimulatorRecord) : (v.step (.note e)).Written := by
  rw [step]
  split
  next => exact h
  next hp =>
    have hp : concerns e = false := by simpa using hp
    obtain ⟨hl, hf⟩ : isPlace e = false ∧ isFill e = false := by simpa [concerns] using hp
    exact h.append v.orders (by simp [hp])
      (h.lawful.append (by simp [hp]) (by simp [hl]) (by simp [hf])) (by simp [hf])
      fun i o ho => (h.orders i o ho).append v.orders (by simp [hp])

lemma Written.restart (next : Int) : (v.step (.restart next)).Written := by
  rw [step]
  split
  next hx =>
    obtain ⟨hp, ha⟩ := maxId_lt_iff.mp hx
    have hj : (⟨next, ∅, v.sessions ++ [v.current], []⟩ : Venue).journal = v.journal := by
      simp [journal]
    refine ⟨hp, fun e he hc => ?_, fun id order ho => by simp at ho, ?_, ?_⟩
    · rw [hj] at he
      exact ⟨(h.records e he hc).1, ha e he hc⟩
    · rw [hj]
      exact h.lawful
    · exact seals_append_singleton.mpr ⟨h.seals, continues_nil _ _⟩
  next => exact h

lemma Written.step (a : VenueAction) : (v.step a).Written := by
  cases a with
  | reserve => exact h.reserve ..
  | recordSent => exact h.recordSent ..
  | activate => exact h.activate ..
  | finish => exact h.finish ..
  | fill => exact h.fill ..
  | note => exact h.note ..
  | restart => exact h.restart ..

lemma Written.run (acts : List VenueAction) : (v.run acts).Written := by
  induction acts generalizing v with
  | nil => exact h
  | cons a acts ih => exact ih (h.step a)

end Venue

/-! ### The cuts that sealing survives -/

/-- The parts of a journal that keep orders whole: a fill is in the part of its placement, and a part
places orders above all orders of the parts before it. -/
def Whole (parts : List (List SimulatorRecord)) : Prop :=
  (∀ part ∈ parts, Aligned part) ∧
    parts.Pairwise fun part later => ∀ e ∈ part, ∀ p ∈ later, concerns e = true →
      isPlace p = true → e.orderId < p.orderId

lemma whole_append_singleton {part : List SimulatorRecord} :
    Whole (parts ++ [part]) ↔ Whole parts ∧ Aligned part ∧
      ∀ e ∈ parts.flatten, ∀ p ∈ part, concerns e = true → isPlace p = true →
        e.orderId < p.orderId := by
  simp only [Whole, pairwise_append, mem_append, mem_singleton, mem_flatten,
    pairwise_singleton, true_and]
  grind

lemma seals_iff_whole (hi : ∀ e ∈ parts.flatten, concerns e = true → 999999 < e.orderId) :
    Seals parts ↔ Whole parts := by
  induction parts using reverseRecOn with
  | nil => exact ⟨fun _ => ⟨by simp, .nil⟩, fun _ front part back hs => by simp at hs⟩
  | append_singleton parts part ih =>
    rw [flatten_append, flatten_singleton] at hi
    rw [seals_append_singleton, whole_append_singleton, ih fun e he => hi e (mem_append_left _ he)]
    refine and_congr_right fun _ => and_congr_right fun _ => ?_
    have ha : ∀ p ∈ part, isPlace p = true → 999999 < p.orderId := fun p hp hl =>
      hi p (mem_append_right _ hp) (by simp [concerns, hl])
    by_cases hr : parts = []
    · simp [hr]
    · simp only [maxId_lt_iff, hr, ne_eq, not_false_eq_true, decide_true, true_imp_iff]
      grind

/-- Sealing keeps the state of the simulator just when no order is cut. -/
theorem simulator_state_survives_sealing (actions : List VenueAction)
    (segments : List (List SimulatorRecord)) (tail : List SimulatorRecord)
    (hcut : (Venue.run {} actions).journal = segments.flatten ++ tail) :
    Survives segments tail ↔ Whole (segments ++ [tail]) := by
  have hw := Venue.Written.start.run actions
  have hp : (segments ++ [tail]).flatten = (Venue.run {} actions).journal := by
    simp [hcut]
  rw [← seals_iff_whole fun e he hc => (hw.records e (hp ▸ he) hc).1]
  apply survives_iff
  · rw [← hcut]
    exact hw.lawful
  · rw [← hcut]
    exact hw.aligned

/-- Two orders: the first one is filled, the second one is placed. -/
def twoOrders : List VenueAction :=
  let request : VenueRequest :=
    { instrument := "EUR.USD"
      side := "BUY"
      qty := 100
      named := by decide
      sided := .inl rfl
      qty_pos := by decide +kernel }
  [.reserve request, .recordSent 1000000, .activate 1000000, .fill 1000000 (11 / 10),
    .reserve request, .recordSent 1000001]

theorem simulator_state_survives_sealing_twoOrders :
    let J := (Venue.run {} twoOrders).journal
    J.length = 3 ∧ (Survives [J.take 2] (J.drop 2) ↔ Whole [J.take 2, J.drop 2]) ∧
      (Survives [J.take 1] (J.drop 1) ↔ Whole [J.take 1, J.drop 1]) :=
  ⟨by decide +kernel,
    simulator_state_survives_sealing twoOrders _ _ (by rw [flatten_singleton,
      take_append_drop]),
    simulator_state_survives_sealing twoOrders _ _ (by rw [flatten_singleton,
      take_append_drop])⟩

/-- A fill that is sealed after its placement is refused, although one walk over both accepts it. -/
theorem simulator_fill_cut_from_place :
    let J := (Venue.run {} twoOrders).journal
    (sealAll [J.take 1, J.drop 1]).map Store.rows = .error "OMS_SIMULATOR_STATE_FILL_CONFLICT" ∧
      ((applySimulatorEvents {} J false).map fun st =>
          (st.maxOrderId, st.admittedOrders, position st.positions "EUR.USD")) =
        .ok (1000001, 2, 100) ∧
      ¬Survives [J.take 1] (J.drop 1) := by
  have hs : (sealAll ([(Venue.run {} twoOrders).journal.take 1] ++
      [(Venue.run {} twoOrders).journal.drop 1])).map Store.rows =
      .error "OMS_SIMULATOR_STATE_FILL_CONFLICT" := by decide +kernel
  refine ⟨hs, by decide +kernel, ?_⟩
  rintro ⟨store, _, _, ht, hr, -, -⟩
  rw [sealAll_append_singleton, ht] at hs
  change (store.sealGeneration _).map _ = _ at hs
  rw [Store.sealGeneration, hr] at hs
  cases hs

/-- Sealing between runs keeps the state: a restart forgets the orders, so no order is cut. -/
theorem survives_between_runs (acts : List VenueAction) :
    Survives (Venue.run {} acts).sessions (Venue.run {} acts).current := by
  have hw := Venue.Written.start.run acts
  exact (survives_iff hw.lawful hw.aligned).mpr hw.seals

end Simulator

end Hepta
