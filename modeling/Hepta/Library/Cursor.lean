import Mathlib.Data.List.Basic
import Mathlib.Data.List.DropRight
import Mathlib.Order.Nat

/-!
# Reading a bounded log by a cursor

The entries of a log are numbered upwards. A window keeps the last entries and remembers the number
through which it has dropped. A reader advances a cursor over the entries it receives and over the
gaps that it is told of: what it has received is the log up to the cursor without the gaps.
-/

namespace Cursor

open List

variable {α : Type*} {seq : α → ℕ} {window : List α}

/-- The entries are numbered upwards. -/
def Numbered (seq : α → ℕ) (log : List α) : Prop := log.Pairwise fun a b => seq a < seq b

lemma Numbered.append_singleton {log : List α} {a : α} (h : Numbered seq log)
    (ha : ∀ b ∈ log, seq b < seq a) : Numbered seq (log ++ [a]) := by
  rw [Numbered, pairwise_append]
  refine ⟨h, pairwise_singleton _ _, fun b hb c hc => ?_⟩
  rw [mem_singleton] at hc
  exact hc ▸ ha b hb

/-! ### Windows -/

/-- Drop entries from the front until the capacity is met, and remember the last one dropped. -/
def trim (seq : α → ℕ) (capacity : ℕ) : List α → ℕ → List α × ℕ
  | [], dropped => ([], dropped)
  | a :: window, dropped =>
    if capacity < (a :: window).length then trim seq capacity window (seq a)
    else (a :: window, dropped)

lemma trim_of_le {cap : ℕ} (h : window.length ≤ cap) (dropped : ℕ) :
    trim seq cap window dropped = (window, dropped) := by
  cases window with
  | nil => rfl
  | cons => rw [trim, if_neg (not_lt.mpr h)]

/-- Nothing is dropped, or the last entry dropped is one of the window. -/
lemma trim_dropped (cap : ℕ) (window : List α) (dropped : ℕ) :
    (trim seq cap window dropped).2 = dropped ∨
      ∃ a ∈ window, (trim seq cap window dropped).2 = seq a := by
  induction window generalizing dropped with
  | nil => exact .inl rfl
  | cons a window ih =>
    rw [trim]
    split
    · rcases ih (seq a) with hl | ⟨b, hb, hl⟩
      · exact .inr ⟨a, by simp, hl⟩
      · exact .inr ⟨b, by simp [hb], hl⟩
    · exact .inl rfl

/-- A trimmed window has the entries after the one that was dropped last. -/
lemma trim_spec (cap : ℕ) {dropped : ℕ} (hm : Numbered seq window)
    (hd : ∀ a ∈ window, dropped < seq a) :
    (trim seq cap window dropped).1 =
        window.filter (fun a => (trim seq cap window dropped).2 < seq a) ∧
      dropped ≤ (trim seq cap window dropped).2 := by
  induction window generalizing dropped with
  | nil => simp [trim]
  | cons a window ih =>
    rw [trim]
    split
    · obtain ⟨ha, hw⟩ := List.pairwise_cons.mp hm
      obtain ⟨hk, hl⟩ := ih hw ha
      refine ⟨?_, (hd a (by simp)).le.trans hl⟩
      rw [filter_cons_of_neg (by simpa using hl)]
      exact hk
    · refine ⟨(List.filter_eq_self.mpr fun b hb => ?_).symm, le_rfl⟩
      simpa using hd b hb

lemma trim_fst (cap : ℕ) (window : List α) (dropped : ℕ) :
    (trim seq cap window dropped).1 = window.rtake cap := by
  induction window generalizing dropped with
  | nil => simp [trim]
  | cons a window ih =>
    rw [trim]
    split
    · rename_i hl
      rw [ih, rtake, rtake, length_cons, Nat.succ_sub (Nat.le_of_lt_succ hl), drop_succ_cons]
    · rename_i hl
      rw [rtake, Nat.sub_eq_zero_of_le (not_lt.mp hl), drop_zero]

lemma rtake_concat_rtake (n : ℕ) (l : List α) (a : α) :
    (l.rtake n ++ [a]).rtake n = (l ++ [a]).rtake n := by
  cases n with
  | zero => rw [rtake_zero, rtake_zero]
  | succ n =>
    rw [rtake_concat_succ, rtake_concat_succ, rtake_eq_reverse_take_reverse (rtake _ _),
      rtake_eq_reverse_take_reverse l, reverse_reverse, take_take, Nat.min_eq_left n.le_succ,
      ← rtake_eq_reverse_take_reverse]

/-- The first entry after a cursor that the window has not passed. -/
lemma find?_window {log : List α} {dropped af : ℕ} (h : dropped ≤ af) :
    (log.filter fun a => dropped < seq a).find? (fun a => af < seq a) =
      log.find? fun a => af < seq a := by
  rw [find?_filter]
  congr 1
  funext a
  by_cases ha : af < seq a
  · simp [ha, h.trans_lt ha]
  · simp [ha]

/-! ### Readers -/

/-- How far a reader has come. A gap is given by the cursor before it and the number through which
entries are gone. -/
structure Progress (α : Type*) where
  cursor : ℕ := 0
  received : List α := []
  gaps : List (ℕ × ℕ) := []

namespace Progress

variable {log : List α} {p : Progress α} {a : α}

/-- The reader receives an entry. -/
def take (seq : α → ℕ) (p : Progress α) (a : α) : Progress α :=
  { p with cursor := seq a, received := p.received ++ [a] }

/-- The reader is told of a gap. -/
def skip (p : Progress α) (through : ℕ) : Progress α :=
  { p with cursor := through, gaps := p.gaps ++ [(p.cursor, through)] }

/-- An entry lies in a gap that the reader was told of. -/
def Skipped (seq : α → ℕ) (p : Progress α) (a : α) : Prop :=
  ∃ gap ∈ p.gaps, gap.1 < seq a ∧ seq a ≤ gap.2

instance : DecidablePred (p.Skipped seq) := fun _ => inferInstanceAs (Decidable (∃ _ ∈ _, _))

/-- The reader has received the log up to its cursor, without the gaps. -/
structure Exact (seq : α → ℕ) (log : List α) (p : Progress α) : Prop where
  received : p.received = log.filter fun a => seq a ≤ p.cursor ∧ ¬p.Skipped seq a
  gaps : ∀ gap ∈ p.gaps, gap.2 ≤ p.cursor

/-- A reader at the start of a log has received nothing. -/
lemma Exact.start (h : ∀ a ∈ log, 0 < seq a) : Exact seq log {} where
  received := by
    symm
    rw [filter_eq_nil_iff]
    intro a ha
    have := h a ha
    simp only [decide_eq_true_eq, not_and]
    omega
  gaps := by simp

variable (h : p.Exact seq log)

include h

lemma Exact.append (ha : p.cursor < seq a) : p.Exact seq (log ++ [a]) where
  received := by
    rw [filter_append, ← h.received, filter_cons_of_neg, filter_nil, append_nil]
    simp only [decide_eq_true_eq, not_and]
    omega
  gaps := h.gaps

lemma Exact.take (hm : Numbered seq log)
    (ha : log.find? (fun a => p.cursor < seq a) = some a) : (p.take seq a).Exact seq log := by
  obtain ⟨hc, front, back, rfl, hf⟩ := List.find?_eq_some_iff_append.mp ha
  rw [decide_eq_true_eq] at hc
  obtain ⟨-, hbc, -⟩ := List.pairwise_append.mp hm
  have hl : ∀ b ∈ back, seq a < seq b := (List.pairwise_cons.mp hbc).1
  have he : ∀ b ∈ front, seq b ≤ p.cursor := by
    intro b hb
    simpa using hf b hb
  have hp : ∀ gap ∈ p.gaps, gap.2 ≤ seq a := fun gap hg => (h.gaps gap hg).trans hc.le
  refine ⟨?_, hp⟩
  -- the front was read before, the entry is new, and the back is still to come
  have hr : ∀ b ∈ front, decide (seq b ≤ seq a ∧ ¬p.Skipped seq b) =
      decide (seq b ≤ p.cursor ∧ ¬p.Skipped seq b) := by
    intro b hb
    have := he b hb
    simp [this, this.trans hc.le]
  have hw : ¬p.Skipped seq a := by
    rintro ⟨gap, hg, -, hle⟩
    exact absurd (h.gaps gap hg) (not_le.mpr (hc.trans_le hle))
  have ho : p.received = front.filter fun b => seq b ≤ p.cursor ∧ ¬p.Skipped seq b := by
    have hnone : ((a :: back).filter fun b => seq b ≤ p.cursor ∧ ¬p.Skipped seq b) = [] := by
      rw [filter_eq_nil_iff]
      intro b hb
      rcases List.mem_cons.mp hb with rfl | hb
      · simp [not_le.mpr hc]
      · simp [not_le.mpr (hc.trans (hl b hb))]
    rw [h.received, filter_append, hnone, append_nil]
  have hs : (back.filter fun b => seq b ≤ seq a ∧ ¬p.Skipped seq b) = [] := by
    rw [filter_eq_nil_iff]
    intro b hb
    simp [not_le.mpr (hl b hb)]
  change p.received ++ [a] = List.filter (fun b => decide (seq b ≤ seq a ∧ ¬p.Skipped seq b)) _
  rw [filter_append, filter_cons_of_pos (by simp [hw]), hs, filter_congr hr,
    ho]

lemma Exact.skip {through : ℕ} (ht : p.cursor ≤ through) :
    (p.skip through).Exact seq log where
  received := by
    change p.received = _
    rw [h.received]
    apply filter_congr
    intro a _
    have hs : (p.skip through).Skipped seq a ↔
        p.Skipped seq a ∨ p.cursor < seq a ∧ seq a ≤ through := by
      simp [Skipped, Progress.skip, or_and_right, exists_or]
    rw [decide_eq_decide, hs]
    change _ ↔ seq a ≤ through ∧ _
    by_cases hc : seq a ≤ p.cursor
    · simp [hc, hc.trans ht, not_lt.mpr hc]
    · simp only [hc, false_and, false_iff, not_and, not_not]
      intro hl
      exact .inr ⟨not_le.mp hc, hl⟩
  gaps := by
    intro gap hg
    rcases List.mem_append.mp hg with hg | hg
    · exact (h.gaps gap hg).trans ht
    · rw [mem_singleton] at hg
      subst hg
      exact le_rfl

/-- What a reader has received is in the order of the log. -/
lemma Exact.sublist : p.received.Sublist log := by
  rw [h.received]
  exact filter_sublist

end Progress

end Cursor
