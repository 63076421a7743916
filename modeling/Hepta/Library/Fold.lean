import Mathlib.Data.List.Induction

/-!
# Folds over lists

An element at which the operation of a fold is the identity can be left out, and an element in
front of such elements acts last. Where every element sets a value or leaves it alone, the last
one that sets it decides. A part of a list is picked out by its positions.
-/

namespace List

variable {α β : Type*} {f : β → α → β} {l : List α}

lemma foldl_of_fixed {b : β} (h : ∀ a ∈ l, f b a = b) : l.foldl f b = b := by
  induction l with
  | nil => rfl
  | cons a l ih =>
    rw [foldl_cons, h a mem_cons_self]
    exact ih fun a' ha' => h a' (mem_cons_of_mem a ha')

/-- An element in front of elements that do nothing acts last. -/
lemma foldl_append_cons_of_fixed {front back : List α} (a : α) (b : β)
    (h : ∀ x ∈ back, ∀ c, f c x = c) :
    (front ++ a :: back).foldl f b = f ((front ++ back).foldl f b) a := by
  rw [foldl_append, foldl_cons, foldl_of_fixed fun x hx => h x hx _, foldl_append,
    foldl_of_fixed fun x hx => h x hx _]

/-- An element that does nothing can be left out. -/
lemma foldl_append_cons_fixed {front back : List α} {a : α} (b : β) (h : ∀ c, f c a = c) :
    (front ++ a :: back).foldl f b = (front ++ back).foldl f b := by
  rw [foldl_append, foldl_cons, h, foldl_append]

/-- What holds wherever a list is split holds at its last element and in the list before it. -/
lemma forall_split_append_singleton {p : List α → α → Prop} {a : α} :
    (∀ front b back, l ++ [a] = front ++ b :: back → p front b) ↔
      (∀ front b back, l = front ++ b :: back → p front b) ∧ p l a := by
  constructor
  · intro h
    refine ⟨fun front b back hs => ?_, h l a [] rfl⟩
    exact h front b (back ++ [a]) (by simp [hs])
  · rintro ⟨hl, ha⟩ front b back hs
    rcases eq_nil_or_concat back with rfl | ⟨back, b', rfl⟩
    · obtain ⟨rfl, heq⟩ := append_inj' hs rfl
      obtain rfl : a = b := by simpa using heq
      exact ha
    · have hs' : l ++ [a] = (front ++ b :: back) ++ [b'] := by simp [hs]
      obtain ⟨rfl, -⟩ := append_inj' hs' rfl
      exact hl front b back rfl

/-! ### Positions -/

/-- The elements at the selected positions, the first of which is `start`. -/
def keepFrom (selected : ℕ → Bool) (start : ℕ) (l : List α) : List α :=
  ((l.zipIdx start).filter fun entry => selected entry.2).map Prod.fst

variable {selected : ℕ → Bool} {start : ℕ}

lemma keepFrom_append (l m : List α) : keepFrom selected start (l ++ m) =
    keepFrom selected start l ++ keepFrom selected (start + l.length) m := by
  simp [keepFrom, zipIdx_append]

lemma keepFrom_cons (a : α) (l : List α) : keepFrom selected start (a :: l) =
    (if selected start = true then [a] else []) ++ keepFrom selected (start + 1) l := by
  by_cases h : selected start = true <;> simp [keepFrom, zipIdx_cons, h]

/-- An element that is kept stands between what is kept before and after it. -/
lemma keepFrom_eq_append_cons {a : α} {kept kept' : List α}
    (h : keepFrom selected start l = kept ++ a :: kept') :
    ∃ front back, l = front ++ a :: back ∧ selected (start + front.length) = true ∧
      keepFrom selected start front = kept ∧
      keepFrom selected (start + front.length + 1) back = kept' := by
  induction l generalizing start kept with
  | nil => simp [keepFrom] at h
  | cons b l ih =>
    -- behind the first element the positions start one later
    have hl : ∀ kept, keepFrom selected (start + 1) l = kept ++ a :: kept' →
        ∃ front back, b :: l = front ++ a :: back ∧ selected (start + front.length) = true ∧
          keepFrom selected start front = (if selected start = true then [b] else []) ++ kept ∧
          keepFrom selected (start + front.length + 1) back = kept' := by
      intro kept h
      obtain ⟨front, back, rfl, ha, rfl, rfl⟩ := ih h
      have hi : start + (b :: front).length = start + 1 + front.length := by
        rw [length_cons]
        omega
      exact ⟨b :: front, back, rfl, hi ▸ ha, keepFrom_cons b front, by rw [hi]⟩
    rw [keepFrom_cons] at h
    by_cases hs : selected start = true
    · rw [if_pos hs, singleton_append] at h
      cases kept with
      | nil =>
        obtain ⟨rfl, rfl⟩ := cons.inj h
        exact ⟨[], l, rfl, hs, rfl, rfl⟩
      | cons c kept =>
        obtain ⟨rfl, heq⟩ := cons.inj h
        simpa [hs] using hl kept heq
    · rw [if_neg hs, nil_append] at h
      simpa [hs] using hl kept h

lemma mem_keepFrom {a : α} : a ∈ keepFrom selected start l ↔
    ∃ front back, l = front ++ a :: back ∧ selected (start + front.length) = true := by
  constructor
  · intro h
    obtain ⟨kept, kept', hk⟩ := append_of_mem h
    obtain ⟨front, back, hl, ha, -⟩ := keepFrom_eq_append_cons hk
    exact ⟨front, back, hl, ha⟩
  · rintro ⟨front, back, rfl, ha⟩
    rw [keepFrom_append, keepFrom_cons, if_pos ha]
    simp

lemma keepFrom_sublist (l : List α) : (keepFrom selected start l).Sublist l := by
  have h := (filter_sublist (l := l.zipIdx start) (p := fun entry => selected entry.2)).map Prod.fst
  rwa [zipIdx_map_fst] at h

/-- The position of the last mark that was set, unless a mark was taken off since. -/
def lastMark (mark : α → Option Bool) (l : List α) : Option ℕ :=
  l.zipIdx.foldl (fun last entry => match mark entry.1 with
    | some true  => some entry.2
    | some false => none
    | none       => last) none

variable {mark : α → Option Bool}

lemma lastMark_append_singleton (l : List α) (a : α) : lastMark mark (l ++ [a]) =
    match mark a with
    | some true  => some l.length
    | some false => none
    | none       => lastMark mark l := by
  simp [lastMark, zipIdx_append]

/-- The last mark is followed by elements without a mark. -/
lemma lastMark_eq_some_iff {i : ℕ} : lastMark mark l = some i ↔
    ∃ front a back, l = front ++ a :: back ∧ front.length = i ∧ mark a = some true ∧
      ∀ b ∈ back, mark b = none := by
  induction l using List.reverseRecOn with
  | nil => simp [lastMark]
  | append_singleton l a ih =>
    rw [lastMark_append_singleton]
    constructor
    · intro h
      match hm : mark a, h with
      | some true, h => exact ⟨l, a, [], rfl, Option.some.inj h, hm, by simp⟩
      | none, h =>
        obtain ⟨front, b, back, rfl, hln, hb, hbc⟩ := ih.mp h
        refine ⟨front, b, back ++ [a], by simp, hln, hb, ?_⟩
        simp only [mem_append, mem_singleton]
        rintro c (hc | rfl)
        · exact hbc c hc
        · exact hm
    · rintro ⟨front, b, back, hl, hln, hb, hbc⟩
      rcases eq_nil_or_concat back with rfl | ⟨back, c, rfl⟩
      · obtain ⟨rfl, ha⟩ := append_inj' hl rfl
        obtain rfl := (cons.inj ha).1
        simp [hb, hln]
      · have hl' : l ++ [a] = (front ++ b :: back) ++ [c] := by simpa using hl
        obtain ⟨rfl, hac⟩ := append_inj' hl' rfl
        obtain rfl := (cons.inj hac).1
        rw [hbc a (by simp)]
        exact ih.mpr ⟨front, b, back, rfl, hln, hb, fun c hc => hbc c (by simp [hc])⟩

end List
