import Mathlib.Data.List.Pairwise
import Mathlib.Data.List.Sort
import Mathlib.Order.Bounds.Basic
import Mathlib.Order.Lattice
import Hepta.Library.Checked
import Hepta.Library.Map

/-!
# Tables of entries that agree

A loop reads entries into a table. The entries of one key must agree on a part of theirs, and the
rest of them is joined. Whether the loop succeeds, and what it then says about a key, depends on
nothing but which entries there are: neither their order nor their repetition matters.
-/

namespace Keyed

open List

variable {α κ σ τ ρ : Type} [DecidableEq κ] [SemilatticeSup τ] {l : List α}

def store (agree : σ → σ → Bool) (conflict : κ → σ → σ → ρ) (table : Dict κ (σ × τ)) (k : κ)
    (s : σ) (t : τ) : Except ρ (Dict κ (σ × τ)) :=
  match table.lookup k with
  | none => .ok (table.insert k (s, t))
  | some (s', t') =>
    if agree s' s then .ok (table.insert k (s', t' ⊔ t)) else .error (conflict k s' s)

/-- Read one element, which may be refused or passed over. -/
def step (agree : σ → σ → Bool) (conflict : κ → σ → σ → ρ)
    (read : α → Except ρ (Option (κ × σ × τ))) (table : Dict κ (σ × τ)) (a : α) :
    Except ρ (Dict κ (σ × τ)) := do
  match ← read a with
  | none => .ok table
  | some (k, s, t) => store agree conflict table k s t

/-- The loop. -/
def run (agree : σ → σ → Bool) (conflict : κ → σ → σ → ρ)
    (read : α → Except ρ (Option (κ × σ × τ))) (l : List α) : Except ρ (Dict κ (σ × τ)) :=
  l.foldlM (step agree conflict read) ∅

def entries (read : α → Except ρ (Option (κ × σ × τ))) (l : List α) : List (κ × σ × τ) :=
  l.filterMap fun a => (read a).toOption.join

omit [DecidableEq κ] [SemilatticeSup τ] in
lemma mem_entries {read : α → Except ρ (Option (κ × σ × τ))} {x : κ × σ × τ} :
    x ∈ entries read l ↔ ∃ a ∈ l, read a = .ok (some x) := by
  rw [entries, mem_filterMap]
  refine exists_congr fun a => and_congr_right fun _ => ?_
  cases h : read a with
  | error => simp [Except.toOption]
  | ok o => cases o <;> simp [Except.toOption]

/-- What a table says about the entries it was read from. -/
structure Reads (es : List (κ × σ × τ)) (table : Dict κ (σ × τ)) : Prop where
  keys : ∀ k, k ∈ table ↔ ∃ s t, (k, s, t) ∈ es
  sig : ∀ k s t s' t', table.lookup k = some (s, t) → (k, s', t') ∈ es → s' = s
  lub : ∀ k s t, table.lookup k = some (s, t) → IsLUB {w | ∃ s', (k, s', w) ∈ es} t

def Agreeing (agree : σ → σ → Bool) (es : List (κ × σ × τ)) : Prop :=
  es.Pairwise fun x y => x.1 = y.1 → agree x.2.1 y.2.1 = true

variable {agree : σ → σ → Bool} {conflict : κ → σ → σ → ρ} {read : α → Except ρ (Option (κ × σ × τ))}
  {es es' : List (κ × σ × τ)} {table table' : Dict κ (σ × τ)} {k : κ} {s : σ}

lemma Reads.empty : Reads ([] : List (κ × σ × τ)) ∅ where
  keys k := by simp
  sig k s t s' t' h := by simp at h
  lub k s t h := by simp at h

lemma Reads.lookup_eq_none (h : Reads es table) (hk : table.lookup k = none) {t : τ} :
    (k, s, t) ∉ es := by
  intro hm
  have hy := (h.keys k).mpr ⟨s, t, hm⟩
  rw [← AList.lookup_isSome, hk] at hy
  simp at hy

/-- An entry of the signature of its key, with the bound that it leaves. -/
lemma Reads.insert (h : Reads es table) {t bound : τ}
    (hs : ∀ s' w, (k, s', w) ∈ es → s' = s)
    (hl : IsLUB {w | ∃ s', (k, s', w) ∈ es ++ [(k, s, t)]} bound) :
    Reads (es ++ [(k, s, t)]) (table.insert k (s, bound)) where
  keys i := by
    rw [AList.mem_insert, h.keys]
    simp only [mem_append, mem_singleton, Prod.mk.injEq]
    grind
  sig i s₁ t₁ s' t' hk hm := by
    by_cases hi : i = k
    · subst hi
      obtain ⟨rfl, rfl⟩ : s = s₁ ∧ bound = t₁ := by simpa using hk
      rcases List.mem_append.mp hm with ho | hw
      · exact hs s' t' ho
      · simp only [mem_singleton, Prod.mk.injEq, true_and] at hw
        exact hw.1
    · rw [AList.lookup_insert_ne hi] at hk
      exact h.sig i s₁ t₁ s' t' hk (by simpa [hi] using hm)
  lub i s₁ t₁ hk := by
    by_cases hi : i = k
    · subst hi
      obtain ⟨rfl, rfl⟩ : s = s₁ ∧ bound = t₁ := by simpa using hk
      exact hl
    · rw [AList.lookup_insert_ne hi] at hk
      simpa [hi] using h.lub i s₁ t₁ hk

/-- A key that was not there. -/
lemma Reads.insert_new (h : Reads es table) (hk : table.lookup k = none) (s : σ) (t : τ) :
    Reads (es ++ [(k, s, t)]) (table.insert k (s, t)) := by
  apply h.insert
  · exact fun s' w hm => absurd hm (h.lookup_eq_none hk)
  · simp [h.lookup_eq_none hk]

/-- A key that was there. -/
lemma Reads.insert_old (h : Reads es table) {t t' : τ} (hk : table.lookup k = some (s, t)) :
    Reads (es ++ [(k, s, t')]) (table.insert k (s, t ⊔ t')) := by
  apply h.insert
  · exact fun s' w hm => h.sig k s t s' w hk hm
  have hs : {w | ∃ s', (k, s', w) ∈ es ++ [(k, s, t')]} =
      {w | ∃ s', (k, s', w) ∈ es} ∪ {t'} := by
    ext w
    simp [exists_or, or_comm]
  rw [hs]
  exact (h.lub k s t hk).union isLUB_singleton

omit [DecidableEq κ] [SemilatticeSup τ] in
lemma entries_append (l l' : List α) : entries read (l ++ l') = entries read l ++ entries read l' :=
  filterMap_append

omit [DecidableEq κ] [SemilatticeSup τ] in
lemma entries_singleton {a : α} {o : Option (κ × σ × τ)} (h : read a = .ok o) :
    entries read [a] = o.toList := by
  cases o <;> simp [entries, h, Except.toOption]

/-- An entry is stored if it agrees with the entries before it. -/
lemma store_spec (conflict : κ → σ → σ → ρ) (ha : ∀ s s', agree s s' = true → s = s')
    (h : Reads es table) (hp : Agreeing agree es) (k : κ) (s : σ) (t : τ) :
    (Agreeing agree (es ++ [(k, s, t)]) ∧ ∃ table', store agree conflict table k s t = .ok table' ∧
        Reads (es ++ [(k, s, t)]) table') ∨
      (¬Agreeing agree (es ++ [(k, s, t)]) ∧ ∃ r, store agree conflict table k s t = .error r) := by
  unfold store
  cases hk : table.lookup k with
  | none =>
    refine .inl ⟨?_, _, rfl, h.insert_new hk s t⟩
    refine List.pairwise_append.mpr ⟨hp, pairwise_singleton _ _, ?_⟩
    rintro ⟨k', s', t'⟩ hx y hy heq
    obtain rfl : y = (k, s, t) := by simpa using hy
    obtain rfl : k' = k := heq
    exact absurd hx (h.lookup_eq_none hk)
  | some v =>
    obtain ⟨s', _⟩ := v
    -- every earlier entry of the key has the part that the table holds
    by_cases hs : agree s' s = true
    · obtain rfl := ha s' s hs
      refine .inl ⟨?_, _, by simp [hs], h.insert_old hk⟩
      refine List.pairwise_append.mpr ⟨hp, pairwise_singleton _ _, ?_⟩
      rintro ⟨k₁, s₁, t₁⟩ hx y hy heq
      obtain rfl : y = (k, s', t) := by simpa using hy
      obtain rfl : k₁ = k := heq
      obtain rfl := h.sig _ _ _ _ _ hk hx
      exact hs
    · refine .inr ⟨fun hb => hs ?_, conflict k s' s, by simp [hs]⟩
      obtain ⟨_, _, he⟩ := (h.keys k).mp (AList.lookup_isSome.mp (by simp [hk]))
      obtain rfl := h.sig _ _ _ _ _ hk he
      exact (List.pairwise_append.mp hb).2.2 _ he (k, s, t) (by simp) rfl

/-- A loop succeeds if nothing in the list is refused and its entries agree. -/
lemma run_spec (conflict : κ → σ → σ → ρ) (read : α → Except ρ (Option (κ × σ × τ)))
    (har : ∀ s s', agree s s' = true → s = s') (l : List α) :
    ((∀ a ∈ l, ∃ o, read a = .ok o) ∧ Agreeing agree (entries read l) ∧
        ∃ table, run agree conflict read l = .ok table ∧ Reads (entries read l) table) ∨
      (¬((∀ a ∈ l, ∃ o, read a = .ok o) ∧ Agreeing agree (entries read l)) ∧
        ∃ r, run agree conflict read l = .error r) := by
  induction l using reverseRecOn with
  | nil => exact .inl ⟨by simp, .nil, ∅, rfl, .empty⟩
  | append_singleton l a ih =>
    have hrn : run agree conflict read (l ++ [a]) =
        run agree conflict read l >>= fun table => step agree conflict read table a := by
      simp [run]
    have hd : (∀ b ∈ l ++ [a], ∃ o, read b = .ok o) ↔
        (∀ b ∈ l, ∃ o, read b = .ok o) ∧ ∃ o, read a = .ok o := by
      simp [or_imp, forall_and]
    rw [hrn, hd, entries_append]
    rcases ih with ⟨hl, hp, table, hk, hr⟩ | ⟨ho, r, hf⟩
    · rw [hk]
      change (_ ∧ _ ∧ ∃ table', step _ _ _ table a = _ ∧ _) ∨ (_ ∧ ∃ r, step _ _ _ table a = _)
      cases ha : read a with
      | error r => exact .inr ⟨by simp, r, by simp [step, ha, bind, Except.bind]⟩
      | ok o =>
        rw [entries_singleton ha]
        cases o with
        | none =>
          refine .inl ⟨⟨hl, none, rfl⟩, by simpa using hp, table, ?_, by simpa using hr⟩
          simp [step, ha, bind, Except.bind]
        | some x =>
          obtain ⟨k, s, t⟩ := x
          have hs : step agree conflict read table a = store agree conflict table k s t := by
            simp [step, ha, bind, Except.bind]
          rw [hs]
          obtain ⟨hg, hst⟩ | ⟨ht, hf⟩ := store_spec conflict har hr hp k s t
          · exact .inl ⟨⟨hl, _, rfl⟩, hg, hst⟩
          · exact .inr ⟨fun hb => ht hb.2, hf⟩
    · refine .inr ⟨fun hb => ho ⟨hb.1.1, (List.pairwise_append.mp hb.2).1⟩, r, ?_⟩
      rw [hf]
      rfl

section Identifying

variable (ha : ∀ s s', agree s s' = true → s = s')

include ha

lemma reads_of_run (h : run agree conflict read l = .ok table) : Reads (entries read l) table := by
  rcases run_spec conflict read ha l with
    ⟨-, -, table', ho, hr⟩ | ⟨-, r, hf⟩
  · obtain rfl : table' = table := by simpa [ho] using h
    exact hr
  · simp [hf] at h

end Identifying

end Keyed
