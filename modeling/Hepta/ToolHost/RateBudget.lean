import Mathlib.Data.List.Sort
import Mathlib.Logic.Function.Basic

/-!
# The trade-call budget

`DispatchMutation` counts the placements of a session in a window of a minute. The window is kept
per token and moves to the new token when the lease is renewed.
-/

namespace Hepta.RateBudget

/-- `m_rateWindowStartMs` and `m_tradeCallsInWindow`; an absent token reads as zero. -/
structure Budgets where
  windowStart : String → UInt64
  count : String → Nat

def Budgets.set (b : Budgets) (token : String) (start : UInt64) (count : Nat) : Budgets where
  windowStart := Function.update b.windowStart token start
  count := Function.update b.count token count

/-- The rate test for a placement, with whether the call reaches the registry. The clock readings
are subtracted without a sign. -/
def dispatch (limit : Nat) (b : Budgets) (token : String) (now : UInt64) : Budgets × Bool :=
  let fresh := now - b.windowStart token ≥ 60000
  let start := if fresh then now else b.windowStart token
  let count := if fresh then 0 else b.count token
  if count ≥ limit then (b.set token start count, false)
  else (b.set token start (count + 1), true)

def moveSessionRateBudgets (b : Budgets) (current replacement : String) : Budgets :=
  (b.set current 0 0).set replacement (b.windowStart current) (b.count current)

inductive Op
  | dispatch (now : UInt64)
  | rotate (replacement : String)

/-- A session under its current token, and the readings at its calls to the registry. -/
structure Chain where
  budgets : Budgets
  token : String
  invoked : List UInt64 := []

def step (limit : Nat) (s : Chain) : Op → Chain
  | .dispatch now =>
    let r := dispatch limit s.budgets s.token now
    { s with budgets := r.1, invoked := if r.2 then now :: s.invoked else s.invoked }
  | .rotate replacement =>
    { s with
      budgets := moveSessionRateBudgets s.budgets s.token replacement
      token := replacement }

def readings (ops : List Op) : List UInt64 :=
  ops.filterMap fun | .dispatch now => some now | .rotate _ => none

/-- The reading lies in the minute from `t`. -/
def within (t : Nat) (x : UInt64) : Bool := t ≤ x.toNat ∧ x.toNat < t + 60000

/-- The calls of the current window are `cur`; those before it were counted in an earlier one. -/
structure Windowed (limit last : Nat) (start : UInt64) (count : Nat) (invoked : List UInt64) :
    Prop where
  split : ∃ cur old, invoked = cur ++ old ∧ cur.length = count ∧ (old = [] ∨
    start.toNat ≤ last ∧ (∀ x ∈ old, x.toNat ≤ start.toNat) ∧
      old.countP (fun x => start.toNat < x.toNat + 60000) ≤ limit)
  count : count ≤ limit
  last : ∀ x ∈ invoked, x.toNat ≤ last
  bound : ∀ t, invoked.countP (within t) ≤ 2 * limit

variable {limit last count : Nat} {start now : UInt64} {invoked : List UInt64}

variable (h : Windowed limit last start count invoked) (hl : last ≤ now.toNat)
include h hl

lemma Windowed.mono : Windowed limit now.toNat start count invoked := by
  obtain ⟨⟨cur, old, he, hc, ho⟩, hn, hm, hb⟩ := h
  refine ⟨⟨cur, old, he, hc, ho.imp_right fun h => ⟨h.1.trans hl, h.2⟩⟩, hn, ?_, hb⟩
  exact fun x hi => (hm x hi).trans hl

lemma Windowed.fresh (hf : now - start ≥ 60000) : Windowed limit now.toNat now 0 invoked := by
  obtain ⟨⟨cur, old, rfl, hc, ho⟩, hn, hm, hb⟩ := h
  have hx : ∀ x ∈ cur ++ old, x.toNat ≤ now.toNat := fun x hi => (hm x hi).trans hl
  have hold : old.countP (fun x => now.toNat < x.toNat + 60000) = 0 := by
    obtain rfl | ⟨hs, ho, -⟩ := ho
    · rfl
    · rw [List.countP_eq_zero]
      intro x hi
      have := ho x hi
      rw [ge_iff_le, UInt64.le_iff_toNat_le,
        UInt64.toNat_sub_of_le _ _ (UInt64.le_iff_toNat_le.2 (hs.trans hl))] at hf
      simp at hf ⊢
      omega
  refine ⟨⟨[], cur ++ old, rfl, rfl, .inr ⟨le_rfl, hx, ?_⟩⟩, Nat.zero_le _, hx, hb⟩
  rw [List.countP_append, hold, Nat.add_zero]
  exact List.countP_le_length.trans (hc ▸ hn)

lemma Windowed.invoke (hc : count < limit) :
    Windowed limit now.toNat start (count + 1) (now :: invoked) := by
  obtain ⟨⟨cur, old, rfl, hn, ho⟩, -, hm, hb⟩ := h.mono hl
  refine ⟨⟨now :: cur, old, rfl, by simp [hn], ho⟩, hc, ?_, fun t => ?_⟩
  · exact List.forall_mem_cons.2 ⟨le_rfl, hm⟩
  · rw [List.countP_cons]
    split
    · rename_i ht
      have hcur : cur.countP (within t) ≤ count := hn ▸ List.countP_le_length
      have hold : old.countP (within t) ≤ limit := by
        obtain rfl | ⟨hs, -, ho⟩ := ho
        · exact Nat.zero_le _
        · refine (List.countP_mono_left fun x _ hi => ?_).trans ho
          simp [within] at ht hi ⊢
          omega
      rw [List.countP_append]
      omega
    · exact hb t

omit h hl

abbrev Chain.Counted (limit last : Nat) (s : Chain) : Prop :=
  Windowed limit last (s.budgets.windowStart s.token) (s.budgets.count s.token) s.invoked

lemma counted_dispatch (s : Chain) (h : s.Counted limit last) (hl : last ≤ now.toNat) :
    (step limit s (.dispatch now)).Counted limit now.toNat := by
  unfold Chain.Counted at h ⊢
  by_cases hf : now - s.budgets.windowStart s.token ≥ 60000
  · have hw := h.fresh hl hf
    by_cases hc : 0 ≥ limit
    · simpa [step, dispatch, hf, hc, Budgets.set] using hw
    · simpa [step, dispatch, hf, hc, Budgets.set] using hw.invoke le_rfl (by omega)
  · by_cases hc : s.budgets.count s.token ≥ limit
    · simpa [step, dispatch, hf, hc, Budgets.set] using h.mono hl
    · simpa [step, dispatch, hf, hc, Budgets.set] using h.invoke hl (by omega)

lemma counted_run (ops : List Op) (s : Chain) (h : s.Counted limit last)
    (hr : (readings ops).Pairwise (· ≤ ·)) (hl : ∀ x ∈ readings ops, last ≤ x.toNat) (t : Nat) :
    (ops.foldl (step limit) s).invoked.countP (within t) ≤ 2 * limit := by
  induction ops generalizing s last with
  | nil => exact h.bound t
  | cons op ops ih =>
    cases op with
    | dispatch now =>
      obtain ⟨hx, hr⟩ := List.pairwise_cons.1 hr
      refine ih _ (counted_dispatch s h (hl now (by simp [readings]))) hr ?_
      exact fun x hi => UInt64.le_iff_toNat_le.1 (hx x hi)
    | rotate replacement =>
      refine ih _ ?_ hr hl
      simpa [Chain.Counted, step, moveSessionRateBudgets, Budgets.set] using h

/-- Readings that never go down admit at most twice the limit in any minute, across rotations. A
reading that went back admits a call that the other refuses exactly if the window is full, the
other reading lies in it, and this one lies outside of it, before its start. -/
theorem trade_call_budget (limit : Nat) (b : Budgets) (token : String) (registered : UInt64)
    (ops : List Op) :
    ((readings ops).Pairwise (· ≤ ·) → ∀ t,
      (ops.foldl (step limit) ⟨b.set token registered 0, token, []⟩).invoked.countP (within t) ≤
        2 * limit) ∧
    ∀ (b : Budgets) (token : String) (now back : UInt64), back ≤ now →
      (((dispatch limit b token back).2 → (dispatch limit b token now).2) ↔
        b.windowStart token ≤ back ∨ limit = 0 ∨ b.count token < limit ∨
          60000 ≤ now - b.windowStart token ∨ back - b.windowStart token < 60000) := by
  constructor
  · intro hr
    have h0 : Chain.Counted limit 0 ⟨b.set token registered 0, token, []⟩ :=
      ⟨⟨[], [], rfl, by simp [Budgets.set], .inl rfl⟩, by simp [Budgets.set], by simp, by simp⟩
    exact counted_run ops _ h0 hr fun _ _ => Nat.zero_le _
  · intro b token now back hb
    -- from the start of the window on, a reading that leaves it is followed by such readings
    have hf : b.windowStart token ≤ back → 60000 ≤ back - b.windowStart token →
        60000 ≤ now - b.windowStart token := by
      intro hs ho
      have h1 := UInt64.toNat_sub_of_le _ _ hs
      have h2 := UInt64.toNat_sub_of_le _ _ (UInt64.le_trans hs hb)
      rw [UInt64.le_iff_toNat_le] at hb ho ⊢
      omega
    rw [← UInt64.not_le]
    simp only [dispatch, ge_iff_le]
    grind

/-- The count of a window goes along to the new token, and the next minute admits again. -/
theorem trade_call_budget_rotated :
    let ops := [.dispatch 100000, .rotate "next", .dispatch 130000, .dispatch 160000]
    let s := ops.foldl (step 1) ⟨.set ⟨fun _ => 0, fun _ => 0⟩ "token" 100000 0, "token", []⟩
    s.invoked = [160000, 100000] ∧ ∀ t, s.invoked.countP (within t) ≤ 2 :=
  ⟨by decide, (trade_call_budget 1 ⟨fun _ => 0, fun _ => 0⟩ "token" 100000 _).1 (by decide)⟩

/-- The one call of a window is used up, and a reading before its start admits another. -/
theorem backward_clock_admits :
    let s := step 1 ⟨.set ⟨fun _ => 0, fun _ => 0⟩ "token" 100000 0, "token", []⟩ (.dispatch 100000)
    (dispatch 1 s.budgets s.token 100000).2 = false ∧
      (dispatch 1 s.budgets s.token 99999).2 = true := by
  decide

end Hepta.RateBudget
