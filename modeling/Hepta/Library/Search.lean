import Mathlib.Data.List.TakeWhile

/-!
# Binary search

Searching a sorted list of rows by halving an interval of positions. The rows are the lines of a
file and have different lengths, so the row in the middle of the interval is any row of it: the
searches are right whichever row is picked.
-/

namespace Search

open List

variable {α : Type*}

/-- The row that is looked at: the picked one, if it lies in the interval. -/
def probe (pick : ℕ → ℕ → ℕ) (low high : ℕ) : ℕ :=
  if low ≤ pick low high ∧ pick low high < high then pick low high else low

lemma probe_mem (pick : ℕ → ℕ → ℕ) {low high : ℕ} (h : low < high) :
    low ≤ probe pick low high ∧ probe pick low high < high := by
  unfold probe
  split_ifs with hp
  · exact hp
  · exact ⟨Nat.le_refl _, h⟩

/-! ### The first row behind a bound -/

/-- The position of the first row in the interval that is not before the bound. -/
def lowerBound (pick : ℕ → ℕ → ℕ) (before : α → Bool) (rows : List α) : ℕ → ℕ → ℕ → ℕ
  | 0, low, _ => low
  | fuel + 1, low, high =>
    if low < high then
      if (rows[probe pick low high]?).any before then
        lowerBound pick before rows fuel (probe pick low high + 1) high
      else lowerBound pick before rows fuel low (probe pick low high)
    else low

variable (pick : ℕ → ℕ → ℕ) {before : α → Bool} {rows : List α}

/-- Once a row is not before the bound, no later one is. -/
def Monotone (before : α → Bool) (rows : List α) : Prop :=
  rows.Pairwise fun a b => before b = true → before a = true

lemma Monotone.before_of_le (h : Monotone before rows) {i j : ℕ} (hi : i ≤ j) (hj : j < rows.length)
    (hb : before rows[j] = true) : before rows[i] = true := by
  rcases Nat.lt_or_eq_of_le hi with hl | rfl
  · exact List.pairwise_iff_getElem.mp h i j (by omega) hj hl hb
  · exact hb

/-- The search keeps rows before the bound below the interval and other rows above it. -/
lemma lowerBound_spec (h : Monotone before rows) (fuel : ℕ) {low high : ℕ} (hf : high ≤ low + fuel)
    (hl : low ≤ high) (hh : high ≤ rows.length)
    (hbl : ∀ i (hi : i < rows.length), i < low → before rows[i] = true)
    (ha : ∀ i (hi : i < rows.length), high ≤ i → before rows[i] = false) :
    lowerBound pick before rows fuel low high ≤ rows.length ∧
      (∀ i (hi : i < rows.length), i < lowerBound pick before rows fuel low high →
        before rows[i] = true) ∧
      ∀ i (hi : i < rows.length), lowerBound pick before rows fuel low high ≤ i →
        before rows[i] = false := by
  induction fuel generalizing low high with
  | zero =>
    obtain rfl : low = high := by omega
    exact ⟨hh, hbl, ha⟩
  | succ fuel ih =>
    unfold lowerBound
    by_cases ht : low < high
    · obtain ⟨hg, ht'⟩ := probe_mem pick ht
      have hp : probe pick low high < rows.length := by omega
      rw [if_pos ht, getElem?_eq_getElem hp]
      cases hb : before rows[probe pick low high] with
      | true =>
        simp only [Option.any_some, hb, if_true]
        exact ih (by omega) (by omega) hh
          (fun i hi ht => h.before_of_le (by omega) hp hb) ha
      | false =>
        simp only [Option.any_some, hb, Bool.false_eq_true, if_false]
        refine ih (by omega) hg (by omega) hbl fun i hi he => ?_
        rw [Bool.eq_false_iff]
        intro hi'
        rw [h.before_of_le he hi hi'] at hb
        simp at hb
    · obtain rfl : low = high := by omega
      rw [if_neg ht]
      exact ⟨hh, hbl, ha⟩

theorem drop_lowerBound (h : Monotone before rows) :
    rows.drop (lowerBound pick before rows rows.length 0 rows.length) = rows.dropWhile before := by
  obtain ⟨hl, hb, hab⟩ := lowerBound_spec pick h rows.length
    (show rows.length ≤ 0 + rows.length by omega) (by omega) (Nat.le_refl _) (by omega) (by omega)
  generalize lowerBound pick before rows rows.length 0 rows.length = r at hl hb hab
  have ht : ∀ a ∈ rows.take r, before a = true := by
    intro a ha
    obtain ⟨i, hi, rfl⟩ := getElem_of_mem ha
    rw [getElem_take]
    exact hb i _ (by simp at hi; omega)
  have hd : (rows.drop r).dropWhile before = rows.drop r := by
    cases hw : rows.drop r with
    | nil => rfl
    | cons a rest =>
      have hr : r < rows.length := by
        by_contra hlt
        rw [drop_eq_nil_of_le (by omega)] at hw
        simp at hw
      have ha : rows[r] = a := by
        have := drop_eq_getElem_cons hr
        rw [hw] at this
        exact (List.cons.inj this).1.symm
      rw [dropWhile_cons_of_neg]
      rw [← ha, hab r hr (Nat.le_refl _)]
      simp
  calc rows.drop r = (rows.drop r).dropWhile before := hd.symm
    _ = (rows.take r ++ rows.drop r).dropWhile before := by
        rw [dropWhile_append_of_pos ht]
    _ = rows.dropWhile before := by rw [take_append_drop]

/-- No row that is left is before the bound. -/
lemma Monotone.of_mem_dropWhile (h : Monotone before rows) {row : α}
    (hr : row ∈ rows.dropWhile before) : before row = false := by
  induction rows with
  | nil => simp at hr
  | cons first rows ih =>
    obtain ⟨hf, hs⟩ := List.pairwise_cons.mp h
    by_cases hb : before first = true
    · rw [dropWhile_cons_of_pos hb] at hr
      exact ih hs hr
    rw [dropWhile_cons_of_neg hb] at hr
    rw [Bool.eq_false_iff]
    intro hbf
    rcases List.mem_cons.mp hr with rfl | hr
    · exact hb hbf
    · exact hb (hf row hr hbf)

/-- What is looked for is among the rows that are left. -/
lemma filter_dropWhile {wanted : α → Bool} (h : ∀ row, wanted row = true → before row = false) :
    (rows.dropWhile before).filter wanted = rows.filter wanted := by
  have ht : (rows.takeWhile before).filter wanted = [] := by
    rw [filter_eq_nil_iff]
    intro row hr hw
    have := mem_takeWhile_imp hr
    simp [h row hw] at this
  calc (rows.dropWhile before).filter wanted
      = (rows.takeWhile before ++ rows.dropWhile before).filter wanted := by
        rw [filter_append, ht, nil_append]
    _ = rows.filter wanted := by rw [takeWhile_append_dropWhile]

/-! ### The row of a key -/

/-- The row of the interval that compares as equal. -/
def find (pick : ℕ → ℕ → ℕ) (compare : α → Ordering) (rows : List α) : ℕ → ℕ → ℕ → Option α
  | 0, _, _ => none
  | fuel + 1, low, high =>
    if low < high then
      match rows[probe pick low high]? with
      | none => none
      | some row =>
        match compare row with
        | .lt => find pick compare rows fuel (probe pick low high + 1) high
        | .gt => find pick compare rows fuel low (probe pick low high)
        | .eq => some row
    else none

variable {compare : α → Ordering}

/-- In front of a row that is not too large every row is too small, and behind a row that is not
too small every row is too large. -/
def Ascending (compare : α → Ordering) (rows : List α) : Prop :=
  rows.Pairwise fun a b => (compare b ≠ .gt → compare a = .lt) ∧ (compare a ≠ .lt → compare b = .gt)

lemma find_spec (h : Ascending compare rows) (fuel : ℕ) {low high : ℕ} (hf : high ≤ low + fuel)
    (hh : high ≤ rows.length) :
    (∀ row, find pick compare rows fuel low high = some row → row ∈ rows ∧ compare row = .eq) ∧
      (find pick compare rows fuel low high = none →
        ∀ i (hi : i < rows.length), low ≤ i → i < high → compare rows[i] ≠ .eq) := by
  induction fuel generalizing low high with
  | zero => exact ⟨by simp [find], fun _ i hi hl hh => by omega⟩
  | succ fuel ih =>
    unfold find
    by_cases ht : low < high
    · obtain ⟨hg, ht'⟩ := probe_mem pick ht
      have hp : probe pick low high < rows.length := by omega
      have ho : ∀ {i j : ℕ} (hi : i < rows.length) (hj : j < rows.length), i < j →
          (compare rows[j] ≠ .gt → compare rows[i] = .lt) ∧
            (compare rows[i] ≠ .lt → compare rows[j] = .gt) :=
        fun hi hj hij => List.pairwise_iff_getElem.mp h _ _ hi hj hij
      rw [if_pos ht, getElem?_eq_getElem hp]
      cases hc : compare rows[probe pick low high] with
      | lt =>
        simp only [hc]
        obtain ⟨hs, hnn⟩ := ih (show high ≤ probe pick low high + 1 + fuel by omega) hh
        refine ⟨hs, fun hn i hi hl hi' => ?_⟩
        by_cases he : probe pick low high + 1 ≤ i
        · exact hnn hn i hi he hi'
        rcases Nat.lt_or_eq_of_le (Nat.le_of_lt_succ (Nat.lt_of_not_le he)) with
          ht'' | rfl
        · rw [(ho hi hp ht'').1 (by simp [hc])]
          simp
        · simp [hc]
      | gt =>
        simp only [hc]
        obtain ⟨hs, hnn⟩ := ih (show probe pick low high ≤ low + fuel by omega) (by omega)
        refine ⟨hs, fun hn i hi hl hi' => ?_⟩
        by_cases he : i < probe pick low high
        · exact hnn hn i hi hl he
        · rcases Nat.lt_or_eq_of_le (Nat.le_of_not_lt he) with ht'' | rfl
          · rw [(ho hp hi ht'').2 (by simp [hc])]
            simp
          · simp [hc]
      | eq =>
        simp only [hc]
        refine ⟨fun row hr => ?_, fun hn => by simp at hn⟩
        obtain rfl := Option.some.inj hr
        exact ⟨getElem_mem hp, hc⟩
    · rw [if_neg ht]
      exact ⟨by simp, fun _ i hi hl hh => by omega⟩

/-- In a sorted list the search finds the row of a key exactly if there is one. -/
theorem find_eq_some_iff (h : Ascending compare rows) (row : α) :
    find pick compare rows rows.length 0 rows.length = some row ↔
      row ∈ rows ∧ compare row = .eq := by
  obtain ⟨hs, hnn⟩ := find_spec pick h rows.length
    (show rows.length ≤ 0 + rows.length by omega) (Nat.le_refl _)
  refine ⟨hs row, fun ⟨hm, heq⟩ => ?_⟩
  obtain ⟨i, hi, rfl⟩ := getElem_of_mem hm
  cases hf : find pick compare rows rows.length 0 rows.length with
  | none => exact absurd heq (hnn hf i hi (Nat.zero_le _) hi)
  | some row' =>
    obtain ⟨hm', heq'⟩ := hs row' hf
    obtain ⟨j, hj, rfl⟩ := getElem_of_mem hm'
    -- two rows that compare as equal stand at one position
    rcases Nat.lt_trichotomy i j with hl | rfl | hl
    · have := (List.pairwise_iff_getElem.mp h i j hi hj hl).1 (by simp [heq'])
      simp [this] at heq
    · rfl
    · have := (List.pairwise_iff_getElem.mp h j i hj hi hl).1 (by simp [heq])
      simp [this] at heq'

end Search
