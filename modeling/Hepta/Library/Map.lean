import Mathlib.Data.Finmap

/-!
# Maps

Finite maps with an unspecified order, whose values can be updated all at once, maps that are
traversed in the order of their keys, and association lists.
-/

/-- A finite map without an order. -/
abbrev UMap (K V : Type) := Finmap (fun _ : K => V)

namespace UMap

variable {K V : Type}

def mapValues (f : V → V) (m : UMap K V) : UMap K V where
  entries := m.entries.map fun entry => ⟨entry.1, f entry.2⟩
  nodupKeys := by
    have h := Multiset.nodup_keys.mpr m.nodupKeys
    apply Multiset.nodup_keys.mp
    simpa [Multiset.keys, Multiset.map_map, Function.comp_def] using h

def keepValues (keep : V → Bool) (m : UMap K V) : UMap K V where
  entries := m.entries.filter fun entry => keep entry.2
  nodupKeys := by
    apply Multiset.nodup_keys.mp
    exact Multiset.nodup_of_le (Multiset.map_le_map (Multiset.filter_le _ _))
      (Multiset.nodup_keys.mpr m.nodupKeys)

variable [DecidableEq K]

@[simp] lemma lookup_keepValues (keep : V → Bool) (m : UMap K V) (k : K) :
    Finmap.lookup k (keepValues keep m) = (Finmap.lookup k m).filter keep := by
  ext v
  simp [Finmap.lookup_eq_some_iff, keepValues, Option.filter_eq_some_iff]

@[simp] lemma lookup_mapValues (f : V → V) (m : UMap K V) (k : K) :
    Finmap.lookup k (mapValues f m) = (Finmap.lookup k m).map f := by
  ext v
  simp only [Finmap.lookup_eq_some_iff, mapValues, Multiset.mem_map, Option.map_eq_some_iff]
  constructor
  · rintro ⟨⟨_, w⟩, hm, heq⟩
    simp only [Sigma.mk.injEq] at heq
    obtain ⟨rfl, hv⟩ := heq
    exact ⟨w, hm, eq_of_heq hv⟩
  · rintro ⟨w, hm, rfl⟩
    exact ⟨⟨k, w⟩, hm, rfl⟩

/-- Storing what is already there changes nothing. -/
lemma insert_lookup {m : UMap K V} {k : K} {v : V} (h : Finmap.lookup k m = some v) :
    Finmap.insert k v m = m := by
  apply Finmap.ext_lookup
  intro k'
  by_cases hk : k' = k
  · subst hk
    rw [Finmap.lookup_insert, h]
  · rw [Finmap.lookup_insert_of_ne _ hk]

end UMap

/-- A map traversed in the order of its keys. -/
structure OMap (K V : Type) [LT K] where
  entries : List (K × V) := []
  sorted : entries.Pairwise fun a b => a.1 < b.1 := by decide

namespace OMap

variable {K V : Type} [LT K] [BEq K]

def find (m : OMap K V) (k : K) : Option V := m.entries.lookup k

end OMap

/-- A map that is kept as an association list. -/
abbrev Dict (K V : Type) := AList (fun _ : K => V)

namespace Dict

variable {K V : Type} [DecidableEq K]

variable (m : Dict K V)

def values : List V := m.entries.map Sigma.snd

lemma mem_values {m : Dict K V} {v : V} : v ∈ m.values ↔ ∃ k, m.lookup k = some v := by
  simp only [values, List.mem_map, ← Option.mem_def, AList.mem_lookup_iff]
  constructor
  · rintro ⟨⟨k, w⟩, hm, rfl⟩
    exact ⟨k, hm⟩
  · rintro ⟨k, hm⟩
    exact ⟨⟨k, v⟩, hm, rfl⟩

/-- Values that name their keys name different ones. -/
lemma nodup_map_values {m : Dict K V} {f : V → K} (h : ∀ k v, m.lookup k = some v → f v = k) :
    (m.values.map f).Nodup := by
  have hk : m.values.map f = m.entries.map Sigma.fst := by
    rw [values, List.map_map]
    exact List.map_congr_left fun entry he => h entry.1 entry.2 (AList.mem_lookup_iff.mpr he)
  exact hk ▸ m.nodupKeys

/-- The entry is set if there is none. -/
def setDefault (k : K) (v : V) : Dict K V :=
  if (m.lookup k).isSome then m else m.insert k v

lemma lookup_setDefault (k k' : K) (v : V) :
    (m.setDefault k v).lookup k' = if k' = k then some ((m.lookup k).getD v) else m.lookup k' := by
  unfold setDefault
  by_cases hk : k' = k
  · subst hk
    cases h : m.lookup k' <;> simp [h]
  · split_ifs <;> simp [hk]

def keysWhere (pass : V → Bool) : List K :=
  (m.entries.filter fun entry => pass entry.2).map Sigma.fst

def eraseAll (ks : List K) : Dict K V := ks.foldl (fun m k => m.erase k) m

end Dict
