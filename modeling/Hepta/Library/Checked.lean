import Mathlib.Data.List.Induction

/-!
# Computations that may refuse

A chain of checks refuses at the first one that fails; what it lets through has passed them all. For
a loop of checked steps, an invariant of the steps that succeed holds when the loop succeeds.
-/

namespace Checked

universe u

variable {ρ : Type*} {α β σ : Type u} {step : σ → α → Except ρ σ} {l : List α}

def refuse (bad : Prop) [Decidable bad] (reason : ρ) : Except ρ Unit :=
  if bad then .error reason else .ok ()

@[simp] lemma refuse_eq_ok {bad : Prop} [Decidable bad] {rs : ρ} {u : Unit} :
    refuse bad rs = .ok u ↔ ¬bad := by
  unfold refuse
  by_cases h : bad <;> simp [h]

def checkIf (condition : Bool) (check : Except ρ Unit) : Except ρ Unit :=
  if condition then check else .ok ()

@[simp] lemma checkIf_eq_ok {condition : Bool} {check : Except ρ Unit} {u : Unit} :
    checkIf condition check = .ok u ↔ (condition = true → check = .ok ()) := by
  unfold checkIf
  cases condition <;> simp

@[simp] lemma bind_eq_ok {x : Except ρ α} {f : α → Except ρ β} {b : β} :
    x >>= f = .ok b ↔ ∃ a, x = .ok a ∧ f a = .ok b := by
  cases x with
  | error => simp [bind, Except.bind]
  | ok => simp [bind, Except.bind]

@[simp] lemma pure_eq_ok {a b : α} : (pure a : Except ρ α) = .ok b ↔ a = b := by
  simp [pure, Except.pure]

/-- A loop that succeeds has gone through every prefix. -/
lemma foldlM_ok {motive : List α → σ → Prop} {start finish : σ}
    (hr : l.foldlM step start = .ok finish) (hsr : motive [] start)
    (hs : ∀ done s a s', motive done s → step s a = .ok s' → motive (done ++ [a]) s') :
    motive l finish := by
  induction l using List.reverseRecOn generalizing finish with
  | nil =>
    obtain rfl : start = finish := by simpa using hr
    exact hsr
  | append_singleton done a ih =>
    rw [List.foldlM_append, bind_eq_ok] at hr
    obtain ⟨s, hd, hl⟩ := hr
    have ht : step s a = .ok finish := by simpa using hl
    exact hs done s a finish (ih hd) ht

lemma forM_eq_ok {check : α → Except ρ PUnit} {u : PUnit} :
    l.forM check = .ok u ↔ ∀ a ∈ l, check a = .ok ⟨⟩ := by
  induction l with
  | nil => simp
  | cons a l ih =>
    change (check a >>= fun _ => l.forM check) = .ok u ↔ _
    rw [bind_eq_ok, List.forall_mem_cons, ← ih]
    exact ⟨fun ⟨_, ha, hl⟩ => ⟨ha, hl⟩, fun ⟨ha, hl⟩ => ⟨⟨⟩, ha, hl⟩⟩

/-- What the computation refuses with satisfies the predicate. -/
def RefusesWith (p : ρ → Prop) (x : Except ρ α) : Prop := ∀ r, x = .error r → p r

section RefusesWith

variable {p : ρ → Prop}

lemma refusesWith_ok (a : α) : RefusesWith p (.ok a : Except ρ α) := by
  simp [RefusesWith]

lemma refusesWith_refuse {bad : Prop} [Decidable bad] {r : ρ} (h : p r) :
    RefusesWith p (refuse bad r) := by
  unfold refuse
  split <;> simp [RefusesWith, h]

lemma RefusesWith.bind {x : Except ρ α} {f : α → Except ρ β} (hx : RefusesWith p x)
    (hf : ∀ a, x = .ok a → RefusesWith p (f a)) : RefusesWith p (x >>= f) := by
  cases x with
  | error r =>
    rintro _ ⟨⟩
    exact hx r rfl
  | ok a => exact hf a rfl

lemma refusesWith_forM {check : α → Except ρ PUnit} (h : ∀ a, RefusesWith p (check a)) :
    RefusesWith p (l.forM check) := by
  induction l with
  | nil => exact refusesWith_ok _
  | cons a l ih => exact (h a).bind fun _ _ => ih

lemma refusesWith_foldlM (h : ∀ s a, RefusesWith p (step s a)) (start : σ) :
    RefusesWith p (l.foldlM step start) := by
  induction l generalizing start with
  | nil => exact refusesWith_ok _
  | cons a l ih =>
    rw [List.foldlM_cons]
    exact (h start a).bind fun s _ => ih s

end RefusesWith

/-- Stages that each change the state or refuse. A refusal ends the stages and keeps what those
before it did. -/
def stages : List (σ → Except ρ σ) → σ → σ × Option ρ
  | [], s => (s, none)
  | stage :: rest, s =>
    match stage s with
    | .error reason => (s, some reason)
    | .ok s' => stages rest s'

/-- Two computations that both fail or agree on their result. -/
def Alike (x y : Except ρ α) : Prop := x.toOption = y.toOption

lemma Alike.bind {x y : Except ρ α} {f g : α → Except ρ β} (h : Alike x y)
    (hf : ∀ a, x = .ok a → y = .ok a → Alike (f a) (g a)) : Alike (x >>= f) (y >>= g) := by
  cases x with
  | error =>
    cases y with
    | error => rfl
    | ok => simp [Alike, Except.toOption] at h
  | ok a =>
    cases y with
    | error => simp [Alike, Except.toOption] at h
    | ok b =>
      obtain rfl : a = b := by simpa [Alike, Except.toOption] using h
      exact hf a rfl rfl

lemma alike_of_ok_iff {x y : Except ρ PUnit} (h : x = .ok ⟨⟩ ↔ y = .ok ⟨⟩) : Alike x y := by
  cases x with
  | error =>
    cases y with
    | error => rfl
    | ok => simp at h
  | ok =>
    cases y with
    | error => simp at h
    | ok => rfl

end Checked
