import Mathlib.Algebra.Order.BigOperators.Group.List
import Mathlib.Algebra.Order.Field.Rat
import Mathlib.Tactic.FieldSimp
import Mathlib.Tactic.LinearCombination
import Mathlib.Tactic.Ring

/-!
# The research ledger

`ResearchLedger` books fills and settlements of one instrument at a weighted average cost or in
lots that are closed first in, first out. Amounts are exact rationals, so the tests of overflow
and lost precision pass. Whatever the cost basis, the equity at a mark is what the fills are
worth there.
-/

namespace Hepta.Research

open List

inductive CostBasis
  | weightedAverage
  | fifo
deriving DecidableEq

inductive ResearchPriceDomain
  | positive
  | signedFinite
deriving DecidableEq

def validPrice (value : ℚ) (domain : ResearchPriceDomain) : Prop :=
  domain = .signedFinite ∨ domain = .positive ∧ value > 0

instance (value : ℚ) (domain : ResearchPriceDomain) : Decidable (validPrice value domain) :=
  inferInstanceAs (Decidable (_ ∨ _))

structure ResearchFill where
  (fillId orderId instrument : String)
  (timestampUs side quantity : Int)
  (price fee : ℚ)
deriving DecidableEq

structure ResearchSettlement where
  (settlementId instrument : String)
  timestampUs : Int
  price : ℚ
deriving DecidableEq

structure Lot where
  quantity : Int
  price : ℚ

/-- The members of `ResearchLedger` that its constructor fixes. -/
structure LedgerConfig where
  instrument : String
  (initialEquity multiplier : ℚ)
  maxEventIds : Nat
  costBasis : CostBasis
  priceDomain : ResearchPriceDomain

/-- What a cost basis keeps of the position. -/
structure Booked where
  lots : List Lot := []
  (average realized : ℚ := 0)

structure ResearchLedger extends Booked where
  (quantity lastTimestampUs : Int := 0)
  fees : ℚ := 0
  fills : List ResearchFill := []
  settlements : List ResearchSettlement := []

structure ResearchAccount where
  quantity : Int
  (averageEntry realizedGross fees unrealized equity : ℚ)

inductive LedgerEvent
  | fill (fill : ResearchFill)
  | settlement (settlement : ResearchSettlement)

def direction (quantity : Int) : Int := if quantity > 0 then 1 else -1

/-! ## Lots -/

/-- The loop that closes lots from the front. A lot that stays open has taken all that remained,
so the loop ends with it. `gain` is what one contract of a lot earns. -/
def closeLots (gain : Lot → ℚ) : List Lot → Int → ℚ → List Lot × Int × ℚ
  | [], remaining, realized => ([], remaining, realized)
  | lot :: lots, remaining, realized =>
    if remaining > 0 then
      let closed := min remaining lot.quantity
      let left := lot.quantity - closed
      if left = 0 then closeLots gain lots (remaining - closed) (realized + gain lot * closed)
      else ({ lot with quantity := left } :: lots, remaining - closed,
        realized + gain lot * closed)
    else (lot :: lots, remaining, realized)

/-- What remains joins the last lot at an equal price or opens a lot. -/
def openLot (lots : List Lot) (remaining : Int) (price : ℚ) : List Lot :=
  if remaining > 0 then
    match lots.getLast? with
    | some back =>
      if back.price = price then
        lots.dropLast ++ [{ back with quantity := back.quantity + remaining }]
      else lots ++ [⟨remaining, price⟩]
    | none => [⟨remaining, price⟩]
  else lots

def meanStep (mean : ℚ × Int) (lot : Lot) : ℚ × Int :=
  let total := mean.2 + lot.quantity
  (if mean.2 = 0 then lot.price else mean.1 + (lot.price - mean.1) * (lot.quantity / total), total)

variable {lots : List Lot} {remaining : Int}

def size (lots : List Lot) : Int := (lots.map (·.quantity)).sum

def cost (lots : List Lot) : ℚ := (lots.map fun lot => (lot.quantity : ℚ) * lot.price).sum

def Positive (lots : List Lot) : Prop := ∀ lot ∈ lots, lot.quantity > 0

lemma Positive.size_nonneg (h : Positive lots) : 0 ≤ size lots :=
  sum_nonneg (by simpa using fun lot hm => (h lot hm).le)

lemma Positive.eq_nil (h : Positive lots) (h0 : size lots = 0) : lots = [] := by
  cases lots with
  | nil => rfl
  | cons lot lots =>
    obtain ⟨hl, hr⟩ := forall_mem_cons.1 h
    have hn := Positive.size_nonneg hr
    simp only [size, map_cons, sum_cons] at h0 hn
    omega

lemma closeLots_spec (price k realized : ℚ) (hp : Positive lots) (hr : 0 ≤ remaining) :
    let r := closeLots (fun lot => (price - lot.price) * k) lots remaining realized
    Positive r.1 ∧ 0 ≤ r.2.1 ∧ (r.2.1 = 0 ∨ r.1 = []) ∧
      size r.1 = size lots - (remaining - r.2.1) ∧
      r.2.2 = realized + k * (price * (remaining - r.2.1) - (cost lots - cost r.1)) := by
  induction lots generalizing remaining realized with
  | nil => simp [closeLots, hr, hp]
  | cons lot lots ih =>
    obtain ⟨hl, hm⟩ := forall_mem_cons.1 hp
    simp only [closeLots, size, cost, map_cons, sum_cons] at ih ⊢
    by_cases h0 : remaining > 0
    · rw [if_pos h0]
      rcases le_or_gt lot.quantity remaining with hle | hlt
      · rw [min_eq_right hle, if_pos (sub_self _)]
        obtain ⟨h1, h2, h3, h4, h5⟩ := ih _ hm (sub_nonneg.2 hle)
        refine ⟨h1, h2, h3, by omega, ?_⟩
        rw [h5]
        push_cast
        ring
      · rw [min_eq_left hlt.le, if_neg (by omega)]
        refine ⟨forall_mem_cons.2 ⟨sub_pos.2 hlt, hm⟩, by simp, .inl (sub_self _), ?_, ?_⟩
        all_goals
          simp only [map_cons, sum_cons]
          push_cast
          ring
    · obtain rfl : remaining = 0 := by omega
      rw [if_neg h0]
      exact ⟨hp, hr, .inl rfl, by simp, by simp⟩

lemma openLot_spec (price : ℚ) (hp : Positive lots) (hr : 0 ≤ remaining) :
    Positive (openLot lots remaining price) ∧
      size (openLot lots remaining price) = size lots + remaining ∧
      cost (openLot lots remaining price) = cost lots + remaining * price := by
  unfold openLot
  by_cases h0 : remaining > 0
  · rw [if_pos h0]
    rcases lots.eq_nil_or_concat' with rfl | ⟨front, back, rfl⟩
    · simp [Positive, size, cost, h0]
    · have hb : back.quantity > 0 := hp back (by simp)
      simp only [getLast?_concat, dropLast_concat]
      split
      · rename_i he
        subst he
        refine ⟨?_, by simp [size, add_assoc], by simp [cost]; ring⟩
        simp only [Positive, forall_mem_append, forall_mem_singleton] at hp ⊢
        exact ⟨hp.1, add_pos hb h0⟩
      · refine ⟨?_, by simp [size, add_assoc], by simp [cost, add_assoc]⟩
        simp only [Positive, forall_mem_append, forall_mem_singleton] at hp ⊢
        exact ⟨hp, h0⟩
  · obtain rfl : remaining = 0 := by omega
    rw [if_neg h0]
    simp [hp]

lemma meanStep_spec (mean : ℚ × Int) (hp : Positive lots) (hm : 0 ≤ mean.2) :
    (lots.foldl meanStep mean).1 * (mean.2 + size lots) = mean.1 * mean.2 + cost lots := by
  induction lots generalizing mean with
  | nil => simp [size, cost]
  | cons lot lots ih =>
    obtain ⟨hl, hr⟩ := forall_mem_cons.1 hp
    have hne : (mean.2 + lot.quantity : ℚ) ≠ 0 := mod_cast (add_pos_of_nonneg_of_pos hm hl).ne'
    have hv : (meanStep mean lot).1 * (mean.2 + lot.quantity) =
        mean.1 * mean.2 + lot.quantity * lot.price := by
      simp only [meanStep]
      split
      · rename_i h0
        simp [h0, mul_comm]
      · push_cast
        field_simp
        ring
    have h := ih (meanStep mean lot) hr (add_pos_of_nonneg_of_pos hm hl).le
    simp only [size, cost, map_cons, sum_cons, foldl_cons] at h ⊢
    have hs : (meanStep mean lot).2 = mean.2 + lot.quantity := rfl
    rw [hs] at h
    push_cast at h ⊢
    linear_combination h + hv

/-- Lots that hold a position, with their mean price. -/
structure Held (lots : List Lot) (quantity : Int) (average : ℚ) : Prop where
  positive : Positive lots
  size : size lots = quantity.natAbs
  mean : average = cost lots / quantity.natAbs

lemma held_of_mean {quantity : Int} (hp : Positive lots) (hs : size lots = quantity.natAbs) :
    Held lots quantity (lots.foldl meanStep (0, 0)).1 := by
  have h := meanStep_spec (0, 0) hp le_rfl
  refine ⟨hp, hs, ?_⟩
  by_cases h0 : quantity = 0
  · obtain rfl := hp.eq_nil (by simpa [h0] using hs)
    simp [cost]
  · have hne : (quantity.natAbs : ℚ) ≠ 0 := by simpa using h0
    rw [hs] at h
    rw [eq_div_iff hne]
    simpa using h

namespace ResearchLedger

variable (c : LedgerConfig) (l : ResearchLedger)

/-! ## Fills -/

/-- The tests of `Apply`, with what it returns when they pass. -/
def checkFill (fill : ResearchFill) : Except String Bool :=
  if ¬ (fill.fillId ≠ "" ∧ fill.fillId.utf8ByteSize ≤ 128 ∧ fill.orderId ≠ "" ∧
      fill.orderId.utf8ByteSize ≤ 128 ∧ fill.instrument = c.instrument ∧ fill.timestampUs ≥ 0 ∧
      (fill.side = 1 ∨ fill.side = -1) ∧ fill.quantity > 0 ∧ fill.quantity ≤ 1000000000000 ∧
      validPrice fill.price c.priceDomain ∧ fill.fee ≥ 0) then
    .error "RESEARCH_FILL_INVALID"
  else
    match l.fills.find? (·.fillId = fill.fillId) with
    | some found => if found = fill then .ok false else .error "RESEARCH_FILL_ID_CONFLICT"
    | none =>
      let nextQuantity := l.quantity + fill.side * fill.quantity
      if fill.timestampUs < l.lastTimestampUs then .error "RESEARCH_FILL_OUT_OF_ORDER"
      else if ¬ (l.settlements.length < c.maxEventIds ∧
          l.fills.length < c.maxEventIds - l.settlements.length) then
        .error "RESEARCH_FILL_ID_CAPACITY"
      else if ¬ (nextQuantity ≥ -1000000000000 ∧ nextQuantity ≤ 1000000000000) then
        .error "RESEARCH_POSITION_CAPACITY"
      else .ok true

def sameDirection (fill : ResearchFill) : Prop :=
  l.quantity = 0 ∨ (l.quantity > 0 ↔ fill.side * fill.quantity > 0)

instance (fill : ResearchFill) : Decidable (l.sameDirection fill) :=
  inferInstanceAs (Decidable (_ ∨ _))

def bookFifo (fill : ResearchFill) : Booked :=
  let closed := if l.sameDirection fill then (l.lots, fill.quantity, l.realized) else
    closeLots (fun lot => (fill.price - lot.price) * (direction l.quantity * c.multiplier)) l.lots
      fill.quantity l.realized
  let lots := openLot closed.1 closed.2.1 fill.price
  { lots, average := (lots.foldl meanStep (0, 0)).1, realized := closed.2.2 }

def bookAverage (fill : ResearchFill) : Booked :=
  let oldAbs : Int := l.quantity.natAbs
  let nextQuantity := l.quantity + fill.side * fill.quantity
  if l.sameDirection fill then
    { l.toBooked with
      average := if oldAbs = 0 then fill.price else
        l.average + (fill.price - l.average) * (fill.quantity / (oldAbs + fill.quantity)) }
  else
    { l.toBooked with
      realized := l.realized + (fill.price - l.average) * direction l.quantity *
        min oldAbs fill.quantity * c.multiplier
      average := if nextQuantity = 0 then 0
        else if ¬ (nextQuantity > 0 ↔ l.quantity > 0) then fill.price else l.average }

def bookFill (fill : ResearchFill) : ResearchLedger where
  toBooked := match c.costBasis with
    | .fifo => l.bookFifo c fill
    | .weightedAverage => l.bookAverage c fill
  quantity := l.quantity + fill.side * fill.quantity
  fees := l.fees + fill.fee
  fills := fill :: l.fills
  settlements := l.settlements
  lastTimestampUs := fill.timestampUs

/-! ## Settlements and marks -/

def checkSettlement (s : ResearchSettlement) : Except String Bool :=
  if ¬ (s.settlementId ≠ "" ∧ s.settlementId.utf8ByteSize ≤ 128 ∧ s.instrument = c.instrument ∧
      s.timestampUs ≥ 0 ∧ validPrice s.price c.priceDomain) then
    .error "RESEARCH_SETTLEMENT_INVALID"
  else
    match l.settlements.find? (·.settlementId = s.settlementId) with
    | some found => if found = s then .ok false else .error "RESEARCH_SETTLEMENT_ID_CONFLICT"
    | none =>
      if s.timestampUs < l.lastTimestampUs then .error "RESEARCH_SETTLEMENT_OUT_OF_ORDER"
      else if ¬ (l.settlements.length < c.maxEventIds ∧
          l.fills.length < c.maxEventIds - l.settlements.length) then
        .error "RESEARCH_SETTLEMENT_ID_CAPACITY"
      else .ok true

/-- What the position gains from its basis to `price`: the variation of a settlement and the
unrealized amount of a mark. -/
def variation (price : ℚ) : ℚ :=
  match c.costBasis with
  | .fifo => (l.lots.map fun lot =>
      (price - lot.price) * lot.quantity * direction l.quantity * c.multiplier).sum
  | .weightedAverage => (price - l.average) * l.quantity * c.multiplier

def bookSettlement (s : ResearchSettlement) : ResearchLedger :=
  { l with
    lots := match c.costBasis with
      | .fifo => if l.quantity ≠ 0 then [⟨l.quantity.natAbs, s.price⟩] else []
      | .weightedAverage => l.lots
    realized := l.realized + l.variation c s.price
    average := if l.quantity = 0 then 0 else s.price
    settlements := s :: l.settlements
    lastTimestampUs := s.timestampUs }

def mark (price : ℚ) : Except String ResearchAccount :=
  if ¬ validPrice price c.priceDomain then .error "RESEARCH_MARK_INVALID"
  else .ok {
    quantity := l.quantity, averageEntry := l.average, realizedGross := l.realized,
    fees := l.fees, unrealized := l.variation c price,
    equity := c.initialEquity + l.realized + l.variation c price - l.fees }

def check : LedgerEvent → Except String Bool
  | .fill fill => l.checkFill c fill
  | .settlement s => l.checkSettlement c s

def book : LedgerEvent → ResearchLedger
  | .fill fill => l.bookFill c fill
  | .settlement s => l.bookSettlement c s

/-- `Apply` and `Settle`: a known event is answered with `false`, a new one is booked. -/
def handle (event : LedgerEvent) : Except String (ResearchLedger × Bool) :=
  (l.check c event).map fun new => (if new then l.book c event else l, new)

/-- The ledger after an event. The source throws before it writes. -/
def step (event : LedgerEvent) : ResearchLedger :=
  match l.handle c event with
  | .ok (next, _) => next
  | .error _ => l

def run (events : List LedgerEvent) : ResearchLedger := events.foldl (step c) l

/-- The fill for which `Apply` returns true. -/
def acceptedFill : LedgerEvent → Option ResearchFill
  | .fill fill => if (l.handle c (.fill fill)).toOption.any (·.2) then some fill else none
  | .settlement _ => none

/-- The fills that `Apply` accepts in a run from the ledger. -/
def accepted : ResearchLedger → List LedgerEvent → List ResearchFill
  | _, [] => []
  | l, event :: events => (l.acceptedFill c event).toList ++ accepted (l.step c event) events

/-! ## The basis of the position -/

def carried : ℚ :=
  match c.costBasis with
  | .fifo => direction l.quantity * cost l.lots
  | .weightedAverage => l.quantity * l.average

def worth (fills : List ResearchFill) (price : ℚ) : ℚ :=
  (fills.map fun f => f.side * f.quantity * (price - f.price)).sum

structure Sound : Prop where
  value : ∀ price, l.realized + c.multiplier * (l.quantity * price - l.carried c) =
    c.multiplier * worth l.fills price
  fees : l.fees = (l.fills.map (·.fee)).sum
  held : c.costBasis = .fifo → Held l.lots l.quantity l.average

variable {c l} {f : ResearchFill}

lemma eq_direction_mul (quantity : Int) : quantity = direction quantity * quantity.natAbs := by
  unfold direction
  split <;> omega

variable (hq : f.quantity > 0) (hs : f.side = 1 ∨ f.side = -1)
include hq hs

lemma opposite (h : ¬ l.sameDirection f) : f.side = -direction l.quantity := by
  rcases hs with e | e <;> simp only [sameDirection, direction, e] at h ⊢ <;> split <;> omega

lemma bookFifo_spec (hh : Held l.lots l.quantity l.average) :
    let b := l.bookFifo c f
    let next := l.quantity + f.side * f.quantity
    Held b.lots next b.average ∧
      b.realized = l.realized + c.multiplier * (direction next * cost b.lots -
        direction l.quantity * cost l.lots - f.side * f.quantity * f.price) := by
  intro b next
  have hz := hh.size
  by_cases h : l.sameDirection f
  · obtain ⟨h1, h2, h3⟩ := openLot_spec f.price hh.positive hq.le
    have hb : b.lots = openLot l.lots f.quantity f.price := by simp [b, bookFifo, h]
    have hr : b.realized = l.realized := by simp [b, bookFifo, h]
    have hn : size b.lots = next.natAbs := by
      rw [hb, h2, hz]
      rcases hs with e | e <;> simp only [sameDirection, next, e] at h ⊢ <;> omega
    have hd : direction next = f.side ∧ (direction l.quantity = f.side ∨ cost l.lots = 0) := by
      by_cases h0 : l.quantity = 0
      · rw [hh.positive.eq_nil (by simpa [h0] using hz)]
        rcases hs with e | e <;> simp only [direction, next, e, h0] <;> split <;> simp [cost] <;>
          omega
      · rcases hs with e | e <;> simp only [sameDirection, direction, next, e] at h ⊢ <;> grind
    refine ⟨held_of_mean (hb ▸ h1) hn, ?_⟩
    rw [hr, hb, h3, hd.1]
    obtain ⟨-, hd | hd⟩ := hd <;> rw [hd] <;> ring
  · obtain ⟨h1, h2, h3, h4, h5⟩ := closeLots_spec f.price (direction l.quantity * c.multiplier)
      l.realized hh.positive hq.le
    set r := closeLots (fun lot => (f.price - lot.price) * (direction l.quantity * c.multiplier))
      l.lots f.quantity l.realized
    obtain ⟨o1, o2, o3⟩ := openLot_spec f.price h1 h2
    have hb : b.lots = openLot r.1 r.2.1 f.price := by simp [b, bookFifo, h, r]
    have hr : b.realized = r.2.2 := by simp [b, bookFifo, h, r]
    have hp := h1.size_nonneg
    have hc : r.2.1 ≠ 0 → size r.1 = 0 := fun h0 => by simp [h3.resolve_left h0, size]
    have hn : size b.lots = next.natAbs := by
      rw [hb, o2]
      rcases hs with e | e <;> simp only [sameDirection, next, e] at h ⊢ <;> omega
    have hd := opposite hq hs h
    have hk : r.2.1 = 0 ∧ direction next = direction l.quantity ∨ cost r.1 = 0 ∧
        (r.2.1 = 0 ∨ direction next = f.side) := by
      by_cases h0 : r.2.1 = 0
      · by_cases hx : size r.1 = 0
        · exact .inr ⟨by simp [h1.eq_nil hx, cost], .inl h0⟩
        · refine .inl ⟨h0, ?_⟩
          simp only [direction, next, hd] at hd ⊢
          grind
      · refine .inr ⟨by simp [h3.resolve_left h0, cost], .inr ?_⟩
        have := hc h0
        simp only [direction, next, hd] at hd ⊢
        grind
    refine ⟨held_of_mean (hb ▸ o1) hn, ?_⟩
    rw [hr, h5, hb, o3]
    obtain ⟨h0, hk⟩ | ⟨h0, hk | hk⟩ := hk
    all_goals
      rw [h0, hk, hd]
      push_cast
      ring

lemma bookAverage_spec :
    let b := l.bookAverage c f
    let next := l.quantity + f.side * f.quantity
    b.realized = l.realized + c.multiplier * (next * b.average - l.quantity * l.average -
      f.side * f.quantity * f.price) := by
  intro b next
  by_cases h : l.sameDirection f
  · by_cases h0 : l.quantity = 0
    · simp [b, next, bookAverage, h, h0]
    · have hn : ((l.quantity.natAbs : Int) : ℚ) + f.quantity ≠ 0 := by
        exact_mod_cast (by omega : (l.quantity.natAbs : Int) + f.quantity ≠ 0)
      have hd : l.quantity = f.side * l.quantity.natAbs := by
        rcases hs with e | e <;> simp only [sameDirection, e] at h ⊢ <;> omega
      have ha : b.average = l.average + (f.price - l.average) *
          (f.quantity / ((l.quantity.natAbs : Int) + f.quantity)) := by
        simp [b, bookAverage, h, h0]
      have hr : b.realized = l.realized := by simp [b, bookAverage, h]
      have hq : (l.quantity : ℚ) = f.side * (l.quantity.natAbs : Int) := mod_cast hd
      rw [hr, ha, Int.cast_add, Int.cast_mul, hq]
      field_simp
      ring
  · have hd := opposite hq hs h
    have hr : b.realized = l.realized + (f.price - l.average) * direction l.quantity *
        (min (l.quantity.natAbs : Int) f.quantity : Int) * c.multiplier := by
      simp [b, bookAverage, h]
    have hb : b.average = if next = 0 then 0
        else if ¬ (next > 0 ↔ l.quantity > 0) then f.price else l.average := by
      simp [b, next, bookAverage, h]
    have hx : (l.quantity : ℚ) = direction l.quantity * (l.quantity.natAbs : Int) :=
      mod_cast eq_direction_mul l.quantity
    have hn : (next : ℚ) = direction l.quantity * ((l.quantity.natAbs : Int) - f.quantity) := by
      rw [Int.cast_add, Int.cast_mul, hd, hx]
      push_cast
      ring
    rw [hr, hn, hx]
    rcases lt_trichotomy (l.quantity.natAbs : Int) f.quantity with hl | hl | hl
    · have hp : b.average = f.price := by
        rw [hb]
        simp only [next, direction] at hd ⊢
        grind
      rw [min_eq_left hl.le, hp, hd]
      push_cast
      ring
    · rw [min_eq_left hl.le, hl, hd]
      push_cast
      ring
    · have hp : b.average = l.average := by
        rw [hb]
        simp only [next, direction] at hd ⊢
        grind
      rw [min_eq_right hl.le, hp, hd]
      push_cast
      ring

/-! ## Runs -/

lemma bookFill_realized (hh : c.costBasis = .fifo → Held l.lots l.quantity l.average) :
    (l.bookFill c f).realized = l.realized + c.multiplier * ((l.bookFill c f).carried c -
      l.carried c - f.side * f.quantity * f.price) := by
  cases hb : c.costBasis with
  | fifo => simpa [bookFill, carried, hb] using (bookFifo_spec hq hs (hh hb)).2
  | weightedAverage => simpa [bookFill, carried, hb] using bookAverage_spec hq hs

lemma sound_bookFill (h : l.Sound c) : (l.bookFill c f).Sound c where
  value price := by
    have hv := h.value price
    have hr := bookFill_realized hq hs h.held
    have hw : worth (l.bookFill c f).fills price =
        f.side * f.quantity * (price - f.price) + worth l.fills price := rfl
    rw [hw, hr, bookFill]
    push_cast
    linear_combination hv
  fees := by simp [bookFill, h.fees, add_comm]
  held hb := by simpa [bookFill, hb] using (bookFifo_spec hq hs (h.held hb)).1

omit hq hs

lemma variation_eq (h : c.costBasis = .fifo → Held l.lots l.quantity l.average) (price : ℚ) :
    l.variation c price = c.multiplier * (l.quantity * price - l.carried c) := by
  cases hb : c.costBasis with
  | weightedAverage =>
    simp only [variation, carried, hb]
    ring
  | fifo =>
    have hq : (l.quantity : ℚ) = direction l.quantity * size l.lots := by
      rw [(h hb).size]
      exact_mod_cast eq_direction_mul l.quantity
    simp only [variation, carried, hb]
    rw [hq]
    simp only [size, cost]
    induction l.lots with
    | nil => simp
    | cons lot lots ih =>
      simp only [map_cons, sum_cons, ih]
      push_cast
      ring

lemma sound_bookSettlement (h : l.Sound c) (s : ResearchSettlement) :
    (l.bookSettlement c s).Sound c where
  value price := by
    have hq : (direction l.quantity : ℚ) * |(l.quantity : ℚ)| = l.quantity := by
      simpa using congrArg (Int.cast (R := ℚ)) (eq_direction_mul l.quantity).symm
    have hc : (l.bookSettlement c s).carried c = l.quantity * s.price := by
      cases hb : c.costBasis <;> by_cases h0 : l.quantity = 0 <;>
        simp [carried, bookSettlement, hb, h0, cost, ← mul_assoc, hq]
    rw [hc, bookSettlement]
    linear_combination h.value price + variation_eq h.held s.price
  fees := h.fees
  held hb := by
    by_cases h0 : l.quantity = 0 <;> simp only [bookSettlement, hb, h0]
    · exact ⟨by simp [Positive], by simp [size], by simp [cost]⟩
    · exact ⟨by simp [Positive, h0], by simp [size, h0], by simp [cost, h0]⟩

lemma step_eq (l : ResearchLedger) (e : LedgerEvent) :
    l.step c e = if l.check c e = .ok true then l.book c e else l := by
  unfold step handle
  rcases l.check c e with rs | new | new <;> rfl

lemma Sound.step (h : l.Sound c) (e : LedgerEvent) : (l.step c e).Sound c := by
  rw [step_eq]
  split
  · rename_i hc
    cases e with
    | fill f =>
      have hq : f.quantity > 0 ∧ (f.side = 1 ∨ f.side = -1) := by
        unfold check checkFill at hc
        grind
      exact sound_bookFill hq.1 hq.2 h
    | settlement s => exact sound_bookSettlement h s
  · exact h

lemma Sound.run (h : l.Sound c) (es : List LedgerEvent) : (l.run c es).Sound c := by
  induction es generalizing l with
  | nil => exact h
  | cons e es ih => exact ih (h.step e)

lemma sound_start : ({} : ResearchLedger).Sound c where
  value price := by cases hb : c.costBasis <;> simp [carried, worth, cost, hb]
  fees := rfl
  held _ := ⟨by simp [Positive], by simp [size], by simp [cost]⟩

lemma fills_settlement (l : ResearchLedger) (s : ResearchSettlement) :
    (l.step c (.settlement s)).fills = l.fills := by
  rw [step_eq]
  split <;> rfl

lemma fills_run (l : ResearchLedger) (es : List LedgerEvent) :
    (l.run c es).fills.Perm (accepted c l es ++ l.fills) := by
  induction es generalizing l with
  | nil => exact .refl _
  | cons e es ih =>
    have hf : (l.step c e).fills = (l.acceptedFill c e).toList ++ l.fills := by
      cases e with
      | settlement s => exact fills_settlement l s
      | fill f =>
        rcases hc : l.check c (.fill f) with r | new | new <;>
          simp [acceptedFill, step, handle, hc, Except.map, Except.toOption, book, bookFill]
    refine (ih (l.step c e)).trans ?_
    rw [hf, accepted, ← append_assoc]
    exact perm_append_comm.append_right _

/-- What does not depend on the cost basis. -/
def shared (l : ResearchLedger) : ResearchLedger := { l with toBooked := {} }

variable (c) (basis : CostBasis)

lemma step_shared (l : ResearchLedger) (event : LedgerEvent) :
    (l.step c event).shared = (l.shared.step { c with costBasis := basis } event).shared := by
  have hc : l.shared.check { c with costBasis := basis } event = l.check c event := by
    cases event <;> rfl
  rw [step_eq, step_eq, hc]
  split
  · cases event <;> rfl
  · rfl

lemma run_shared {k : ResearchLedger} (h : l.shared = k.shared) (es : List LedgerEvent) :
    (l.run c es).shared = (k.run { c with costBasis := basis } es).shared := by
  induction es generalizing l k with
  | nil => exact h
  | cons e es ih =>
    refine ih ?_
    rw [step_shared c basis l, h]
    exact (step_shared { c with costBasis := basis } basis k e).symm

variable {c}

def equityAt (c : LedgerConfig) (l : ResearchLedger) (price : ℚ) : Except String ℚ :=
  (l.mark c price).map (·.equity)

lemma equityAt_eq (h : l.Sound c) (price : ℚ) :
    l.equityAt c price =
      if validPrice price c.priceDomain then
        .ok (c.initialEquity + c.multiplier * worth l.fills price - (l.fills.map (·.fee)).sum)
      else .error "RESEARCH_MARK_INVALID" := by
  rw [← h.value price, ← variation_eq h.held price, ← h.fees, ← add_assoc, equityAt, mark]
  by_cases hp : validPrice price c.priceDomain <;> simp [hp, Except.map]

lemma equityAt_run (es : List LedgerEvent) (price : ℚ) :
    (run c {} es).equityAt c price =
      if validPrice price c.priceDomain then
        .ok (c.initialEquity + c.multiplier * worth (accepted c {} es) price -
          ((accepted c {} es).map (·.fee)).sum)
      else .error "RESEARCH_MARK_INVALID" := by
  have hp : (run c {} es).fills.Perm (accepted c {} es) := by simpa using fills_run {} es
  have hw : worth (run c {} es).fills price = worth (accepted c {} es) price := (hp.map _).sum_eq
  rw [equityAt_eq (sound_start.run es), hw, (hp.map _).sum_eq]

lemma equityAt_settlement (h : l.Sound c) (s : ResearchSettlement) (price : ℚ) :
    (l.step c (.settlement s)).equityAt c price = l.equityAt c price := by
  rw [equityAt_eq (h.step _), equityAt_eq h, fills_settlement]

/-- Whatever was booked, in either cost basis: the equity at a mark is what the accepted fills are
worth there after their fees, a settlement does not change it, the lots hold the position at
their mean price, and an event that is refused or repeated changes nothing. -/
theorem research_value_identity (c : LedgerConfig) (es : List LedgerEvent) :
    let l := run c {} es
    (∀ price, l.equityAt c price =
      if validPrice price c.priceDomain then
        .ok (c.initialEquity + c.multiplier * worth (accepted c {} es) price -
          ((accepted c {} es).map (·.fee)).sum)
      else .error "RESEARCH_MARK_INVALID") ∧
    (∀ basis price, (run { c with costBasis := basis } {} es).equityAt
      { c with costBasis := basis } price = l.equityAt c price) ∧
    (∀ s price, (l.step c (.settlement s)).equityAt c price = l.equityAt c price) ∧
    (c.costBasis = .fifo → Held l.lots l.quantity l.average) ∧
    ∀ event, (∀ next, l.handle c event ≠ .ok (next, true)) → l.step c event = l := by
  intro l
  have hs : l.Sound c := sound_start.run es
  refine ⟨equityAt_run es, fun basis price => ?_, equityAt_settlement hs, hs.held, fun event h => ?_⟩
  · have hf := congrArg fills (run_shared c basis (l := {}) rfl es)
    change l.fills = (run { c with costBasis := basis } {} es).fills at hf
    rw [equityAt_eq (sound_start.run es), equityAt_eq hs, hf]
  · rw [step_eq, if_neg]
    intro hc
    refine h (l.book c event) ?_
    rw [handle, hc]
    rfl

/-- A first in, first out ledger with a multiplier of ten. -/
def sampleConfig : LedgerConfig := ⟨"FUT", 1000, 10, 8, .fifo, .positive⟩

/-- Two contracts are bought and the fill is repeated; three are sold after a settlement. -/
def sampleEvents : List LedgerEvent :=
  let bought : ResearchFill := ⟨"f1", "o1", "FUT", 1, 1, 2, 100, 1⟩
  [.fill bought, .fill bought, .settlement ⟨"s1", "FUT", 2, 101⟩,
    .fill ⟨"f2", "o2", "FUT", 3, -1, 3, 102, 2⟩]

/-- Two fills are accepted: 1000 + 10 * (2 * (103 - 100) - 3 * (103 - 102)) - 3. -/
theorem research_value_identity_sample :
    (accepted sampleConfig {} sampleEvents).map (·.fillId) = ["f1", "f2"] ∧
      (run sampleConfig {} sampleEvents).equityAt sampleConfig 103 = .ok 1027 := by
  have ha : accepted sampleConfig {} sampleEvents = [⟨"f1", "o1", "FUT", 1, 1, 2, 100, 1⟩,
      ⟨"f2", "o2", "FUT", 3, -1, 3, 102, 2⟩] := by decide
  refine ⟨by rw [ha]; rfl, ?_⟩
  rw [(research_value_identity sampleConfig sampleEvents).1 103, ha, if_pos (by decide)]
  norm_num [worth, sampleConfig]

end ResearchLedger

end Hepta.Research
