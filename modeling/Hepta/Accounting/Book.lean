import Mathlib.Algebra.Order.Field.Rat
import Mathlib.Algebra.BigOperators.Group.List.Basic
import Mathlib.Data.List.Induction
import Mathlib.Tactic.FieldSimp
import Mathlib.Tactic.Linarith
import Mathlib.Tactic.LinearCombination
import Mathlib.Tactic.Positivity
import Mathlib.Tactic.Ring

/-!
# The book of a strategy period

A `Book` keeps the position of one instrument at its weighted entry cost. An execution adds to the
position, reduces it, closes it or turns it around. Valued at any mark, the book is worth the
opening position plus every execution, so periods add up wherever the executions are split. Decimals
are exact rationals.
-/

namespace Hepta

open List

/-- The side of an execution. -/
inductive Direction where
  | buy
  | sell
  deriving DecidableEq, Repr

/-- The sign that a side gives to a quantity. -/
def Direction.sign : Direction → ℚ
  | buy => 1
  | sell => -1

lemma Direction.sign_mul_self (d : Direction) : d.sign * d.sign = 1 := by
  cases d <;> norm_num [Direction.sign]

lemma Direction.sign_ne_zero (d : Direction) : d.sign ≠ 0 := by
  cases d <;> simp [Direction.sign]

lemma Direction.abs_sign (d : Direction) : |d.sign| = 1 := by
  cases d <;> simp [Direction.sign]

/-- What one execution brings to the book. -/
structure BookEntry where
  direction : Direction
  quantity : ℚ
  price : ℚ
  fee : ℚ
  quantity_pos : 0 < quantity

def BookEntry.delta (e : BookEntry) : ℚ := e.direction.sign * e.quantity

@[ext]
structure Book where
  quantity : ℚ := 0
  cost : ℚ := 0
  realized : ℚ := 0
  openFees : ℚ := 0
  paidFees : ℚ := 0
  deriving DecidableEq, Repr

namespace Book

def opened (quantity cost : ℚ) : Book := { quantity, cost }

/-- The book that a period opens with: a position is taken over at its mark. -/
def opening (openingQuantity openingMark : ℚ) : Book :=
  opened openingQuantity (if openingQuantity = 0 then 0 else openingMark)

/-- One execution. -/
def apply (b : Book) (e : BookEntry) : Book :=
  let delta := e.delta
  let paidFees := b.paidFees + e.fee
  if b.quantity = 0 ∨ b.quantity * delta > 0 then
    let total := |b.quantity| + e.quantity
    { b with
      paidFees
      cost := (|b.quantity| * b.cost + e.quantity * e.price) / total
      quantity := b.quantity + delta
      openFees := b.openFees + e.fee }
  else
    let old := b.quantity
    let closed := min |old| e.quantity
    let realized := b.realized + (if old > 0 then 1 else -1) * (e.price - b.cost) * closed
    let openFees := b.openFees * ((|old| - closed) / |old|)
    let quantity := old + delta
    if quantity = 0 then
      { quantity, cost := 0, realized, openFees := 0, paidFees }
    else if old * quantity < 0 then
      { quantity, cost := e.price, realized, paidFees
        openFees := e.fee * (e.quantity - closed) / e.quantity }
    else
      { quantity, cost := b.cost, realized, openFees, paidFees }

/-- The executions of a period, in order. -/
def run (b : Book) (entries : List BookEntry) : Book := entries.foldl apply b

def unrealized (b : Book) (mark : ℚ) : ℚ :=
  if b.quantity = 0 then 0 else (mark - b.cost) * b.quantity

/-- The gross result at a mark. -/
def total (b : Book) (mark : ℚ) : ℚ := b.realized + b.unrealized mark

def netTotal (b : Book) (mark : ℚ) : ℚ := b.total mark - b.paidFees

lemma total_eq (b : Book) (mark : ℚ) : b.total mark = b.realized + b.quantity * (mark - b.cost) := by
  unfold total unrealized
  split_ifs with hz
  · simp [hz]
  · ring

variable {b : Book} {e : BookEntry} {entries : List BookEntry} {prices : List ℚ}

/-! ### One execution -/

/-- What an execution makes of a book: the position before it lies on the side of the execution or
is a quantity `n` on the other side. -/
inductive Applied (b : Book) (e : BookEntry) : Book → Prop where
  | added (n : ℚ) (hn : 0 ≤ n) (hold : b.quantity = e.direction.sign * n) :
      Applied b e
        { b with
          quantity := b.quantity + e.delta
          cost := (n * b.cost + e.quantity * e.price) / (n + e.quantity)
          openFees := b.openFees + e.fee
          paidFees := b.paidFees + e.fee }
  | reduced (n : ℚ) (hn : e.quantity < n) (hold : b.quantity = -e.direction.sign * n) :
      Applied b e
        { b with
          quantity := b.quantity + e.delta
          realized := b.realized + -e.direction.sign * (e.price - b.cost) * e.quantity
          openFees := b.openFees * ((n - e.quantity) / n)
          paidFees := b.paidFees + e.fee }
  | closed (hold : b.quantity = -e.direction.sign * e.quantity) :
      Applied b e
        { quantity := 0
          cost := 0
          realized := b.realized + -e.direction.sign * (e.price - b.cost) * e.quantity
          openFees := 0
          paidFees := b.paidFees + e.fee }
  | turned (n : ℚ) (hpos : 0 < n) (hn : n < e.quantity) (hold : b.quantity = -e.direction.sign * n) :
      Applied b e
        { quantity := b.quantity + e.delta
          cost := e.price
          realized := b.realized + -e.direction.sign * (e.price - b.cost) * n
          openFees := e.fee * (e.quantity - n) / e.quantity
          paidFees := b.paidFees + e.fee }

/-- A position lies on the side of an execution or on the other one. -/
lemma quantity_cases (b : Book) (d : Direction) :
    (∃ n, 0 ≤ n ∧ b.quantity = d.sign * n) ∨ ∃ n, 0 < n ∧ b.quantity = -d.sign * n := by
  cases d with
  | buy =>
    rcases le_or_gt 0 b.quantity with h | h
    · exact .inl ⟨b.quantity, h, by simp [Direction.sign]⟩
    · exact .inr ⟨-b.quantity, by linarith, by simp [Direction.sign]⟩
  | sell =>
    rcases lt_or_ge 0 b.quantity with h | h
    · exact .inr ⟨b.quantity, h, by simp [Direction.sign]⟩
    · exact .inl ⟨-b.quantity, by linarith, by simp [Direction.sign]⟩

/-- Adding to a position leaves it open. -/
lemma added_ne_zero {n : ℚ} (hn : 0 ≤ n) (ho : b.quantity = e.direction.sign * n) :
    b.quantity + e.delta ≠ 0 := by
  have hq := e.quantity_pos
  have hw : b.quantity + e.delta = e.direction.sign * (n + e.quantity) := by
    rw [ho, BookEntry.delta]
    ring
  rw [hw]
  exact mul_ne_zero e.direction.sign_ne_zero (by positivity)

/-- Only the whole position closes it. -/
lemma reduced_ne_zero {n : ℚ} (hn : n ≠ e.quantity) (ho : b.quantity = -e.direction.sign * n) :
    b.quantity + e.delta ≠ 0 := by
  have hw : b.quantity + e.delta = e.direction.sign * (e.quantity - n) := by
    rw [ho, BookEntry.delta]
    ring
  rw [hw]
  exact mul_ne_zero e.direction.sign_ne_zero (sub_ne_zero.mpr hn.symm)

lemma applied (b : Book) (e : BookEntry) : Applied b e (b.apply e) := by
  have hq := e.quantity_pos
  rcases b.quantity_cases e.direction with ⟨n, hn, ho⟩ | ⟨n, hn, ho⟩
  · have ha : |b.quantity| = n := by rw [ho, abs_mul, Direction.abs_sign, abs_of_nonneg hn, one_mul]
    have hs : b.quantity = 0 ∨ b.quantity * (e.delta) > 0 := by
      rcases hn.eq_or_lt with rfl | hps
      · exact .inl (by simp [ho])
      refine .inr ?_
      have : b.quantity * (e.delta) = n * e.quantity := by
        rw [ho, BookEntry.delta]
        linear_combination n * e.quantity * e.direction.sign_mul_self
      rw [this]
      positivity
    rw [apply, if_pos hs, ha]
    exact .added n hn ho
  · have ha : |b.quantity| = n := by
      rw [ho, abs_mul, abs_neg, Direction.abs_sign, abs_of_pos hn, one_mul]
    have hp : b.quantity * (e.delta) = -(n * e.quantity) := by
      rw [ho, BookEntry.delta]
      linear_combination -n * e.quantity * e.direction.sign_mul_self
    have hs : ¬(b.quantity = 0 ∨ b.quantity * (e.delta) > 0) := by
      rw [hp, not_or]
      refine ⟨fun hz => ?_, by nlinarith⟩
      rw [hz, abs_zero] at ha
      linarith
    have hsg : (if b.quantity > 0 then (1 : ℚ) else -1) = -e.direction.sign := by
      rw [ho]
      cases e.direction <;> simp [Direction.sign, hn, hn.le]
    have hw : b.quantity + e.delta = e.direction.sign * (e.quantity - n) := by
      rw [ho, BookEntry.delta]
      ring
    rw [apply, if_neg hs]
    dsimp only
    rw [ha, hsg]
    rcases lt_trichotomy n e.quantity with hl | rfl | hg
    · have ht : b.quantity * (b.quantity + e.delta) < 0 := by
        have : b.quantity * (b.quantity + e.delta) =
            -(n * (e.quantity - n)) := by
          rw [hw, ho]
          linear_combination -(n * (e.quantity - n)) * e.direction.sign_mul_self
        rw [this]
        nlinarith
      rw [min_eq_left hl.le, if_neg (reduced_ne_zero hl.ne ho), if_pos ht]
      exact .turned n hn hl ho
    · have hz : b.quantity + e.delta = 0 := by rw [hw]; ring
      rw [min_self, if_pos hz, hz]
      exact .closed ho
    · have hk : ¬b.quantity * (b.quantity + e.delta) < 0 := by
        have : b.quantity * (b.quantity + e.delta) =
            n * (n - e.quantity) := by
          rw [hw, ho]
          linear_combination n * (n - e.quantity) * e.direction.sign_mul_self
        rw [this]
        nlinarith
      rw [min_eq_right hg.le, if_neg (reduced_ne_zero hg.ne' ho), if_neg hk]
      exact .reduced n hg ho

lemma total_apply (b : Book) (e : BookEntry) (mark : ℚ) :
    (b.apply e).total mark = b.total mark + e.delta * (mark - e.price) := by
  have hq := e.quantity_pos
  have ha := b.applied e
  rw [total_eq, total_eq]
  generalize b.apply e = b' at ha
  cases ha with
  | added n hn ho =>
    -- the weighted cost is the one that values both parts at the mark
    have hs : (n + e.quantity) ≠ 0 := by positivity
    have hc : (n + e.quantity) * ((n * b.cost + e.quantity * e.price) / (n + e.quantity)) =
        n * b.cost + e.quantity * e.price := mul_div_cancel₀ _ hs
    simp only [ho, BookEntry.delta]
    linear_combination -e.direction.sign * hc
  | reduced =>
    simp only [BookEntry.delta]
    ring
  | closed ho =>
    simp only [ho, BookEntry.delta]
    ring
  | turned n hp hn ho =>
    simp only [ho, BookEntry.delta]
    ring

lemma quantity_apply (b : Book) (e : BookEntry) : (b.apply e).quantity = b.quantity + e.delta := by
  have ha := b.applied e
  generalize b.apply e = b' at ha
  cases ha with
  | added | reduced | turned => rfl
  | closed ho =>
    simp only [ho, BookEntry.delta]
    ring

lemma paidFees_apply (b : Book) (e : BookEntry) : (b.apply e).paidFees = b.paidFees + e.fee := by
  have ha := b.applied e
  generalize b.apply e = b' at ha
  cases ha <;> rfl

lemma openFees_apply (b : Book) (e : BookEntry) (hf : (b.apply e).quantity = 0) :
    (b.apply e).openFees = 0 := by
  have ha := b.applied e
  generalize b.apply e = b' at ha hf
  cases ha with
  | added n hn ho => exact absurd hf (added_ne_zero hn ho)
  | reduced n hn ho => exact absurd hf (reduced_ne_zero hn.ne' ho)
  | closed => rfl
  | turned n hp hn ho => exact absurd hf (reduced_ne_zero hn.ne ho)

def FeesShared (b : Book) : Prop := 0 ≤ b.openFees ∧ b.openFees ≤ b.paidFees

lemma FeesShared.apply (h : b.FeesShared) (hf : 0 ≤ e.fee) : (b.apply e).FeesShared := by
  obtain ⟨hw, hh⟩ := h
  have hq := e.quantity_pos
  have ha := b.applied e
  generalize b.apply e = b' at ha
  cases ha with
  | added => exact ⟨by dsimp only; linarith, by dsimp only; linarith⟩
  | closed => exact ⟨le_rfl, by dsimp only; linarith⟩
  | reduced n =>
    have hs : 0 ≤ (n - e.quantity) / n := div_nonneg (by linarith) (by linarith)
    have hl : (n - e.quantity) / n ≤ 1 := (div_le_one (by linarith)).mpr (by linarith)
    exact ⟨mul_nonneg hw hs, by dsimp only; nlinarith⟩
  | turned n =>
    have hs : 0 ≤ (e.quantity - n) / e.quantity := div_nonneg (by linarith) hq.le
    have hl : (e.quantity - n) / e.quantity ≤ 1 := (div_le_one hq).mpr (by linarith)
    constructor
    · dsimp only
      rw [mul_div_assoc]
      exact mul_nonneg hf hs
    · dsimp only
      rw [mul_div_assoc]
      nlinarith

/-- The cost of an open position lies between two of the given prices. -/
def CostWithin (prices : List ℚ) (b : Book) : Prop :=
  b.quantity ≠ 0 → ∃ low ∈ prices, ∃ high ∈ prices, low ≤ b.cost ∧ b.cost ≤ high

lemma CostWithin.apply (h : b.CostWithin prices) (e : BookEntry) :
    (b.apply e).CostWithin (prices ++ [e.price]) := by
  have hq := e.quantity_pos
  have hp : e.price ∈ prices ++ [e.price] := by simp
  have ha := b.applied e
  generalize b.apply e = b' at ha
  intro ho
  cases ha with
  | closed => exact absurd rfl ho
  | turned => exact ⟨e.price, hp, e.price, hp, le_rfl, le_rfl⟩
  | reduced n hn hol =>
    have hb : b.quantity ≠ 0 := by
      rw [hol]
      exact mul_ne_zero (neg_ne_zero.mpr e.direction.sign_ne_zero) (by linarith)
    obtain ⟨low, hl, high, hh, hc⟩ := h hb
    exact ⟨low, by simp [hl], high, by simp [hh], hc⟩
  | added n hn hol =>
    rcases hn.eq_or_lt with rfl | hps
    · -- a flat book takes the price of the execution as its cost
      refine ⟨e.price, hp, e.price, hp, ?_⟩
      dsimp only
      rw [zero_mul, zero_add, zero_add, mul_div_cancel_left₀ _ hq.ne']
      exact ⟨le_rfl, le_rfl⟩
    · have hb : b.quantity ≠ 0 := by
        rw [hol]
        exact mul_ne_zero e.direction.sign_ne_zero hps.ne'
      obtain ⟨low, hl, high, hh, hc⟩ := h hb
      -- a weighted mean lies between the smaller and the larger of the two
      have hs : 0 < n + e.quantity := by linarith
      have hl' : min low e.price ∈ prices ++ [e.price] := by
        rcases min_choice low e.price with hmn | hmn <;> simp [hmn, hl]
      have hh' : max high e.price ∈ prices ++ [e.price] := by
        rcases max_choice high e.price with hm | hm <;> simp [hm, hh]
      have := min_le_left low e.price
      have := min_le_right low e.price
      have := le_max_left high e.price
      have := le_max_right high e.price
      refine ⟨_, hl', _, hh', ?_, ?_⟩
      · exact (le_div_iff₀ hs).mpr (by nlinarith)
      · exact (div_le_iff₀ hs).mpr (by nlinarith)

/-! ### Every execution of a period -/

lemma run_append_singleton (b : Book) (entries : List BookEntry) (e : BookEntry) :
    b.run (entries ++ [e]) = (b.run entries).apply e := by
  simp [run]

lemma total_run (b : Book) (entries : List BookEntry) (mark : ℚ) : (b.run entries).total mark =
    b.total mark + (entries.map fun e => e.delta * (mark - e.price)).sum := by
  induction entries using reverseRecOn with
  | nil => simp [run]
  | append_singleton entries e ih => simp [run_append_singleton, total_apply, ih, add_assoc]

lemma quantity_run (b : Book) (entries : List BookEntry) :
    (b.run entries).quantity = b.quantity + (entries.map BookEntry.delta).sum := by
  induction entries using reverseRecOn with
  | nil => simp [run]
  | append_singleton entries e ih => simp [run_append_singleton, quantity_apply, ih, add_assoc]

lemma paidFees_run (b : Book) (entries : List BookEntry) :
    (b.run entries).paidFees = b.paidFees + (entries.map BookEntry.fee).sum := by
  induction entries using reverseRecOn with
  | nil => simp [run]
  | append_singleton entries e ih => simp [run_append_singleton, paidFees_apply, ih, add_assoc]

lemma openFees_run (h : b.quantity = 0 → b.openFees = 0)
    (hf : (b.run entries).quantity = 0) : (b.run entries).openFees = 0 := by
  induction entries using reverseRecOn with
  | nil => exact h hf
  | append_singleton entries e =>
    rw [run_append_singleton] at hf ⊢
    exact openFees_apply _ e hf

lemma FeesShared.run (h : b.FeesShared)
    (hf : ∀ e ∈ entries, 0 ≤ e.fee) : (b.run entries).FeesShared := by
  induction entries using reverseRecOn with
  | nil => exact h
  | append_singleton entries e ih =>
    rw [run_append_singleton]
    exact (ih fun e he => hf e (by simp [he])).apply (hf e (by simp))

lemma CostWithin.run (h : b.CostWithin prices) (entries : List BookEntry) :
    (b.run entries).CostWithin (prices ++ entries.map BookEntry.price) := by
  induction entries using reverseRecOn with
  | nil => simpa [Book.run] using h
  | append_singleton entries e ih =>
    rw [run_append_singleton, map_append, ← append_assoc]
    exact ih.apply e

lemma total_opening (q cost mark : ℚ) : (opening q cost).total mark = q * (mark - cost) := by
  rw [total_eq]
  by_cases hz : q = 0
  · simp [opening, opened, hz]
  · simp [opening, opened, hz]

lemma total_split (b : Book) (front back : List BookEntry) (cut mark : ℚ) :
    (b.run (front ++ back)).total mark =
      (b.run front).total cut + ((opening (b.run front).quantity cut).run back).total mark := by
  have hf := total_run b front
  rw [total_run b (front ++ back), total_run (opening _ _), total_opening, map_append, sum_append]
  -- moving the mark changes the first part by its quantity
  have hm : (b.run front).total mark =
      (b.run front).total cut + (b.run front).quantity * (mark - cut) := by
    rw [total_eq, total_eq]
    ring
  have := hf mark
  linarith

lemma netTotal_split (b : Book) (front back : List BookEntry) (cut mark : ℚ) :
    (b.run (front ++ back)).netTotal mark =
      (b.run front).netTotal cut +
        ((opening (b.run front).quantity cut).run back).netTotal mark := by
  have hp : (opening (b.run front).quantity cut).paidFees = 0 := rfl
  unfold netTotal
  rw [total_split b front back cut, paidFees_run, paidFees_run, paidFees_run, hp]
  simp only [map_append, sum_append]
  ring

/-- **The book of a period.** -/
theorem book_identity (q₀ c₀ : ℚ) (entries : List BookEntry) :
    let b := (opened q₀ c₀).run entries
    (∀ mark, b.realized + b.quantity * (mark - b.cost) =
      q₀ * (mark - c₀) + (entries.map fun e => e.delta * (mark - e.price)).sum) ∧
    b.quantity = q₀ + (entries.map BookEntry.delta).sum ∧
    b.paidFees = (entries.map BookEntry.fee).sum ∧
    (b.quantity = 0 → b.openFees = 0) ∧
    ((∀ e ∈ entries, 0 ≤ e.fee) → 0 ≤ b.openFees ∧ b.openFees ≤ b.paidFees) ∧
    (b.quantity ≠ 0 → ∃ low ∈ c₀ :: entries.map BookEntry.price,
      ∃ high ∈ c₀ :: entries.map BookEntry.price, low ≤ b.cost ∧ b.cost ≤ high) ∧
    ∀ front back, entries = front ++ back → ∀ cut mark,
      let first := (opened q₀ c₀).run front
      let second := (opening first.quantity cut).run back
      b.total mark = first.total cut + second.total mark ∧
        b.netTotal mark = first.netTotal cut + second.netTotal mark := by
  have ho : (opened q₀ c₀).FeesShared := ⟨le_rfl, le_rfl⟩
  have hc : (opened q₀ c₀).CostWithin [c₀] := by
    intro _
    exact ⟨c₀, by simp, c₀, by simp, le_rfl, le_rfl⟩
  refine ⟨fun mark => ?_, quantity_run _ entries, ?_, openFees_run fun _ => rfl, ho.run,
    hc.run entries, ?_⟩
  · rw [← total_eq, total_run, total_eq]
    simp [opened]
  · rw [paidFees_run]
    simp [opened]
  · rintro front back rfl cut mark
    exact ⟨total_split _ front back cut mark, netTotal_split _ front back cut mark⟩

/-- A sale of five out of a position of two. -/
def turningSale : BookEntry where
  direction := .sell
  quantity := 5
  price := 12
  fee := 1
  quantity_pos := by norm_num

/-- The sale turns the position around and leaves three fifths of its fee open. -/
theorem book_identity_turned :
    (opened 2 10).run [turningSale] =
      { quantity := -3, cost := 12, realized := 4, openFees := 3 / 5, paidFees := 1 } ∧
    0 ≤ ((opened 2 10).run [turningSale]).openFees ∧
      ((opened 2 10).run [turningSale]).openFees ≤ ((opened 2 10).run [turningSale]).paidFees := by
  obtain ⟨-, -, -, -, hf, -⟩ := book_identity 2 10 [turningSale]
  refine ⟨by decide +kernel, hf ?_⟩
  simp [turningSale]

end Book

end Hepta
