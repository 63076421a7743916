import Hepta.Library.Bytes

/-!
# Lists in the order of a key

A map with strings for keys is kept as the list of its values, in the order of their keys.
-/

namespace SortedByKey

open List

variable {α : Type*} (key : α → Bytes)

/-- The keys rise along the list. -/
def Ordered (l : List α) : Prop :=
  l.Pairwise fun a b => Bytes.le (key a) (key b) = true ∧ key a ≠ key b

/-- The value is stored under its key. -/
def insert (a : α) (l : List α) : List α :=
  (l.filter fun b => key b ≠ key a).orderedInsert (fun b c => Bytes.le (key b) (key c)) a

variable {key} {a b : α} {l : List α}

lemma Ordered.eq_of_key (h : Ordered key l) (ha : a ∈ l) (hb : b ∈ l) (hk : key a = key b) :
    a = b := by
  induction l with
  | nil => cases ha
  | cons c l ih =>
    obtain ⟨hh, hr⟩ := List.pairwise_cons.mp h
    rcases List.mem_cons.mp ha with rfl | ha'
    · rcases List.mem_cons.mp hb with rfl | hb'
      · rfl
      · exact absurd hk (hh b hb').2
    · rcases List.mem_cons.mp hb with rfl | hb'
      · exact absurd hk.symm (hh a ha').2
      · exact ih hr ha' hb'

lemma Ordered.filter (h : Ordered key l) (p : α → Bool) : Ordered key (l.filter p) :=
  List.Pairwise.sublist filter_sublist h

lemma Ordered.orderedInsert (h : Ordered key l) (he : ∀ b ∈ l, key b ≠ key a) :
    Ordered key (l.orderedInsert (fun b c => Bytes.le (key b) (key c)) a) := by
  induction l with
  | nil => simp [Ordered]
  | cons b l ih =>
    obtain ⟨hh, hr⟩ := List.pairwise_cons.mp h
    rw [orderedInsert_cons]
    split
    · rename_i hl
      refine List.pairwise_cons.mpr ⟨?_, h⟩
      intro c hc
      refine ⟨?_, (he c hc).symm⟩
      rcases List.mem_cons.mp hc with rfl | hc
      · exact hl
      · exact Bytes.le_trans hl (hh c hc).1
    · rename_i hl
      refine List.pairwise_cons.mpr ⟨?_, ih hr fun c hc => he c (mem_cons_of_mem _ hc)⟩
      intro c hc
      rcases mem_orderedInsert _ |>.mp hc with rfl | hc
      · exact ⟨(Bytes.le_total _ _).resolve_right hl, he b (by simp)⟩
      · exact hh c hc

lemma Ordered.insert (h : Ordered key l) (a : α) : Ordered key (insert key a l) :=
  (h.filter _).orderedInsert fun b hb => by simpa using (List.mem_filter.mp hb).2

/-- A value with a greater key than all the others comes last. -/
lemma insert_append (h : ∀ b ∈ l, Bytes.le (key b) (key a) = true ∧ key b ≠ key a) :
    insert key a l = l ++ [a] := by
  have hf : l.filter (fun b => key b ≠ key a) = l :=
    List.filter_eq_self.mpr fun b hb => by simpa using (h b hb).2
  rw [insert, hf]
  induction l with
  | nil => rfl
  | cons b l ih =>
    obtain ⟨hl, he⟩ := h b (by simp)
    have ht : ¬Bytes.le (key a) (key b) = true := fun hg => he (Bytes.le_antisymm hl hg)
    have hr : ∀ c ∈ l, Bytes.le (key c) (key a) = true ∧ key c ≠ key a :=
      fun c hc => h c (mem_cons_of_mem _ hc)
    rw [orderedInsert_cons, if_neg ht, cons_append, ih hr]
    exact List.filter_eq_self.mpr fun c hc => by simpa using (hr c hc).2

/-- A value takes the place of the one with its key. -/
lemma insert_eq_map (h : Ordered key l) (hb : b ∈ l) (hk : key b = key a) :
    insert key a l = l.map fun c => if key c = key a then a else c := by
  induction l with
  | nil => cases hb
  | cons c l ih =>
    obtain ⟨hh, hr⟩ := List.pairwise_cons.mp h
    by_cases hc : key c = key a
    · have ho : ∀ d ∈ l, key d ≠ key a := fun d hd => hc ▸ (hh d hd).2.symm
      have hf : l.filter (fun d => ¬key d = key a) = l :=
        List.filter_eq_self.mpr fun d hd => by simpa using ho d hd
      have hp : l.map (fun d => if key d = key a then a else d) = l :=
        (map_congr_left fun d hd => if_neg (ho d hd)).trans (map_id l)
      simp only [insert, filter_cons, hc, ne_eq, not_true_eq_false, decide_false,
        Bool.false_eq_true, ↓reduceIte, map_cons]
      rw [hp, hf]
      cases l with
      | nil => rfl
      | cons d => exact orderedInsert_cons_of_le _ _ (hc ▸ (hh d (by simp)).1)
    · have hm : b ∈ l := (List.mem_cons.mp hb).resolve_left fun heq => hc (heq ▸ hk)
      have ht : ¬Bytes.le (key a) (key c) = true := by
        intro hg
        exact hc (Bytes.le_antisymm (hk ▸ (hh b hm).1) hg)
      rw [map_cons, if_neg hc, ← ih hr hm]
      simp [insert, hc, ht]

/-- A value that is left out does not matter. -/
lemma filter_insert {p : α → Bool} (ha : p a = false)
    (h : ∀ b ∈ l, key b = key a → p b = false) : (insert key a l).filter p = l.filter p := by
  have hi : ∀ l : List α, (l.orderedInsert (fun b c => Bytes.le (key b) (key c)) a).filter p =
      l.filter p := by
    intro l
    induction l with
    | nil => simp [ha]
    | cons b l ih =>
      rw [orderedInsert_cons]
      split
      · rw [filter_cons, ha]
        rfl
      · rw [filter_cons, filter_cons, ih]
  rw [insert, hi, List.filter_filter]
  apply filter_congr
  intro b hb
  by_cases hk : key b = key a
  · simp [hk, h b hb hk]
  · simp [hk]

end SortedByKey
