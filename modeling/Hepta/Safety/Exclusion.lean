import Hepta.Moves.Step

/-!
# Exclusion at the venue

A placement or a flatten reserves its scope before the mutex is released and gives it back when the
venue has answered. The reserved scopes are those of the running calls, so what admission reads off
them holds of the calls themselves: a placement finds no risk mutation at the venue, a flatten none
that could touch the same position.
-/

namespace Hepta

open List OmsJournal Hepta.System Finmap

variable {S : Service} {A : Allowance} {s s' : System} {dispatch : Dispatch}
  {scope : RiskMutationDispatchScope} {command : PlaceOrderCommand}

/-- Risk mutations that may be at the venue together. -/
def RiskMutationDispatchScope.Apart (a b : RiskMutationDispatchScope) : Prop :=
  a.account ≠ b.account ∨ (a.instrument ≠ b.instrument ∧ a.symbol ≠ b.symbol)

def Dispatch.isPlace : Dispatch → Bool
  | .place .. => true
  | _         => false

/-- The reserved scopes and the running placements and flattens. -/
structure Scoped (s : System) : Prop where
  reserved : ∀ key scope, s.riskMutationDispatches.lookup key = some scope ↔
    ∃ dispatch ∈ s.dispatches, dispatch.requestKey = key ∧ dispatch.riskScope = some scope
  apart : (s.dispatches.filterMap Dispatch.riskScope).Pairwise RiskMutationDispatchScope.Apart
  single : (s.dispatches.filter Dispatch.isPlace).length ≤ 1

/-! ### What admission reads off the scopes -/

lemma Scoped.idle (h : Scoped s) (hr : s.riskMutationDispatches = ∅) :
    ∀ dispatch ∈ s.dispatches, dispatch.riskScope = none := by
  intro dispatch hm
  cases hs : dispatch.riskScope with
  | none => rfl
  | some scope =>
    have hl := (h.reserved dispatch.requestKey scope).mpr ⟨dispatch, hm, rfl, hs⟩
    simp [hr] at hl

lemma Dispatch.isPlace_of_riskScope (h : dispatch.riskScope = none) : dispatch.isPlace = false := by
  cases dispatch <;> simp_all [Dispatch.riskScope, Dispatch.isPlace]

/-- A flatten is admitted beside scopes that it cannot touch. -/
lemma apart_of_not_conflicts {context : AgentExecutionContext} {ins : String}
    {con : InstrumentRef} (h : ¬ s.riskMutationConflicts context ins con)
    {key owner domain : String}
    (hc : s.riskMutationDispatches.lookup key = some scope) :
    (⟨owner, context.account, domain, ins, con.symbol⟩ :
      RiskMutationDispatchScope).Apart scope := by
  have hk : key ∈ s.riskMutationDispatches.keys :=
    Finmap.mem_keys.mpr (mem_iff.mpr ⟨scope, hc⟩)
  have hf : ¬ (scope.account = context.account ∧
      (scope.instrument = ins ∨ scope.symbol = con.symbol)) := by
    intro hm
    apply h
    refine ⟨key, hk, scope, hc, ?_⟩
    simp only [hm, or_true, and_self]
  rw [not_and_or, not_or] at hf
  rcases hf with hf | ⟨hi, hs⟩
  · exact .inl (Ne.symm hf)
  · exact .inr ⟨Ne.symm hi, Ne.symm hs⟩

lemma Scoped.apart_new (h : Scoped s) (he : s.Exclusive dispatch)
    (hs : dispatch.riskScope = some scope) :
    ∀ other ∈ s.dispatches.filterMap Dispatch.riskScope, scope.Apart other := by
  intro other ho
  obtain ⟨rn, hm, hr⟩ := List.mem_filterMap.mp ho
  have hl := (h.reserved rn.requestKey other).mpr ⟨rn, hm, rfl, hr⟩
  cases dispatch with
  | place =>
    have hnone := h.idle he rn hm
    simp [hnone] at hr
  | cancel => simp [Dispatch.riskScope] at hs
  | flatten =>
    rw [Dispatch.riskScope, Option.some.injEq] at hs
    exact hs ▸ apart_of_not_conflicts he hl

/-! ### The moves -/

/-- Only the calls under way matter. -/
lemma Scoped.of_flight (h : Scoped s) (hf : s'.flightView = s.flightView) : Scoped s' := by
  have hd : s'.dispatches = s.dispatches := congrArg FlightView.dispatches hf
  have hr : s'.riskMutationDispatches = s.riskMutationDispatches :=
    congrArg FlightView.riskMutationDispatches hf
  constructor
  · rw [hd, hr]
    exact h.reserved
  · rw [hd]
    exact h.apart
  · rw [hd]
    exact h.single

lemma Scoped.of_idle {calls : List VenueCall}
    (hf : s'.flightView = ⟨[], 0, calls, s'.preflights, ∅⟩) : Scoped s' := by
  have hd : s'.dispatches = [] := congrArg FlightView.dispatches hf
  have hr : s'.riskMutationDispatches = ∅ := congrArg FlightView.riskMutationDispatches hf
  constructor <;> simp [hd, hr]

lemma Scoped.of_reserve (h : Scoped s) (hfr : ∀ other ∈ s.dispatches,
      other.requestKey ≠ dispatch.requestKey) (he : s.Exclusive dispatch)
    (hd : s'.dispatches = dispatch :: s.dispatches)
    (hrs : s'.riskMutationDispatches = (s.reserve dispatch).riskMutationDispatches) :
    Scoped s' := by
  cases hc : dispatch.riskScope with
  | none =>
    have hp := Dispatch.isPlace_of_riskScope hc
    have hs : s'.riskMutationDispatches = s.riskMutationDispatches := by
      simp [hrs, System.reserve, hc]
    constructor
    · intro key scope
      simp [hs, hd, hc, h.reserved key scope]
    · simpa [hd, hc] using h.apart
    · simpa [hd, hp] using h.single
  | some scope =>
    have hf : dispatch.requestKey ∉ s.riskMutationDispatches := by
      intro hm
      obtain ⟨other, ho⟩ := mem_iff.mp hm
      obtain ⟨rn, hr, hk, -⟩ := (h.reserved _ other).mp ho
      exact hfr rn hr hk
    have hi : s'.riskMutationDispatches =
        s.riskMutationDispatches.insert dispatch.requestKey scope := by
      simp [hrs, System.reserve, hc, hf]
    constructor
    · intro key other
      rw [hi, hd]
      by_cases hk : key = dispatch.requestKey
      · subst hk
        rw [lookup_insert]
        constructor
        · intro ho
          exact ⟨dispatch, mem_cons_self, rfl, hc.trans ho⟩
        · rintro ⟨rn, hm, hr, ho⟩
          rcases List.mem_cons.mp hm with rfl | hm
          · exact hc.symm.trans ho
          · exact absurd hr (hfr rn hm)
      · rw [lookup_insert_of_ne _ hk, h.reserved key other]
        simp [Ne.symm hk]
    · rw [hd, filterMap_cons_some hc, pairwise_cons]
      exact ⟨h.apart_new he hc, h.apart⟩
    · rw [hd]
      cases dispatch with
      | place =>
        have hnn : s.dispatches.filter Dispatch.isPlace = [] := by
          refine List.filter_eq_nil_iff.mpr fun rn hm => ?_
          simp [Dispatch.isPlace_of_riskScope (h.idle he rn hm)]
        rw [filter_cons_of_pos rfl, hnn]
        exact le_refl 1
      | cancel => simpa [Dispatch.isPlace] using h.single
      | flatten => simpa [Dispatch.isPlace] using h.single

lemma Scoped.of_callReturned (h : Scoped s) (hc : Coherent S s) (hm : dispatch ∈ s.dispatches) :
    Scoped (s.callReturned dispatch) := by
  have hother := (hc.callReturned hm).2
  have hb : (s.dispatches.erase dispatch).Sublist s.dispatches := erase_sublist
  have hp : ∀ rn, rn ∈ s.dispatches ↔
      rn = dispatch ∨ rn ∈ s.dispatches.erase dispatch := by
    intro rn
    rw [(perm_cons_erase hm).mem_iff, mem_cons]
  constructor
  · intro key scope
    change _ ↔ ∃ rn ∈ s.dispatches.erase dispatch, _
    cases hsc : dispatch.riskScope with
    | none =>
      have hkp : (s.callReturned dispatch).riskMutationDispatches = s.riskMutationDispatches := by
        simp only [System.callReturned, hsc]
      rw [hkp, h.reserved key scope]
      constructor
      · rintro ⟨rn, hr, hy, hs⟩
        rcases (hp rn).mp hr with rfl | hr
        · simp [hsc] at hs
        · exact ⟨rn, hr, hy, hs⟩
      · rintro ⟨rn, hr, hy, hs⟩
        exact ⟨rn, hb.subset hr, hy, hs⟩
    | some =>
      have he : (s.callReturned dispatch).riskMutationDispatches =
          s.riskMutationDispatches.erase dispatch.requestKey := by
        simp only [System.callReturned, hsc]
      rw [he]
      by_cases hy : key = dispatch.requestKey
      · subst hy
        rw [lookup_erase]
        constructor
        · intro hnn
          simp at hnn
        · rintro ⟨rn, hr, hy, -⟩
          exact absurd hy (hother rn hr)
      · rw [lookup_erase_ne hy, h.reserved key scope]
        constructor
        · rintro ⟨rn, hr, hk, hs⟩
          rcases (hp rn).mp hr with rfl | hr
          · exact absurd hk.symm hy
          · exact ⟨rn, hr, hk, hs⟩
        · rintro ⟨rn, hr, hk, hs⟩
          exact ⟨rn, hb.subset hr, hk, hs⟩
  · exact h.apart.sublist (hb.filterMap _)
  · exact (hb.filter _).length_le.trans h.single

lemma Move.scoped (hc : Coherent S s) (h : Scoped s) (hm : Move S A s s') : Scoped s' := by
  cases hm with
  | opened fresh identified cl =>
    obtain ⟨_, _, _, -, -, -, hf, -⟩ := cl
    exact h.of_flight hf
  | @dispatched _ dispatch events fresh wellFormed writes attempted durable fl block admitted
      exclusive =>
    exact h.of_reserve (hc.ne_of_fresh fresh) exclusive (congrArg FlightView.dispatches fl)
      (congrArg FlightView.riskMutationDispatches fl)
  | returned wt cl =>
    obtain ⟨_, _, _, -, -, -, hf, -⟩ := cl
    exact (h.of_callReturned hc wt).of_flight hf
  | @resolved _ key record known live cl =>
    obtain ⟨_, _, _, -, -, -, hf, -⟩ :=
      cl (.unresolved record.operation) (by simp [Stage.resolvable])
    exact h.of_flight hf
  | fenced al journaled ord sound fences rqs ows fl =>
    exact h.of_flight fl
  | refused | ended | forgot | lifted | preflight | reconnecting | reconnected | released
  | flushed => exact ⟨h.reserved, h.apart, h.single⟩
  | recovered source synced ord sound mem fl => exact .of_idle fl
  | unrecovered fault source ord la mem fl => exact .of_idle fl

/-! ### Runs -/

lemma Scoped.card (h : Scoped s) (hc : Coherent S s) :
    s.riskMutationDispatches.keys.card =
      (s.dispatches.filter fun dispatch => dispatch.riskScope.isSome).length := by
  let risky := s.dispatches.filter fun dispatch => dispatch.riskScope.isSome
  have hd : (risky.map Dispatch.requestKey).Nodup :=
    hc.distinct.sublist (List.filter_sublist.map _)
  have hy : s.riskMutationDispatches.keys = (risky.map Dispatch.requestKey).toFinset := by
    ext key
    rw [Finmap.mem_keys, mem_iff, mem_toFinset, List.mem_map]
    constructor
    · rintro ⟨scope, hs⟩
      obtain ⟨dispatch, hm, hk, hr⟩ := (h.reserved key scope).mp hs
      exact ⟨dispatch, List.mem_filter.mpr ⟨hm, by simp [hr]⟩, hk⟩
    · rintro ⟨dispatch, hm, hk⟩
      obtain ⟨hm, hr⟩ := List.mem_filter.mp hm
      obtain ⟨scope, hs⟩ := Option.isSome_iff_exists.mp hr
      exact ⟨scope, (h.reserved key scope).mpr ⟨dispatch, hm, hk, hs⟩⟩
  rw [hy, toFinset_card_of_nodup hd, length_map]

/-- Runs in which nothing is placed. -/
def placeless : Allowance := { unrestricted with call := (· ≠ .place) }

lemma Moves.placed_before (hm : Moves S placeless s s') {dispatch : PlaceOrderDispatchContext}
    (h : .place command dispatch ∈ s'.dispatches) : .place command dispatch ∈ s.dispatches := by
  induction hm with
  | refl => exact h
  | @tail s₁ s' _ hv ih =>
    apply ih
    cases hv with
    | opened fresh identified cl =>
      obtain ⟨_, _, _, -, -, -, hf, -⟩ := cl
      exact (show _ = s₁.dispatches from congrArg FlightView.dispatches hf) ▸ h
    | @dispatched _ other events fresh wellFormed writes attempted durable fl block admitted
        exclusive indexes al =>
      have hd : s'.dispatches = other :: s₁.dispatches :=
        congrArg FlightView.dispatches fl
      rw [hd] at h
      rcases List.mem_cons.mp h with rfl | h
      · exact absurd rfl al
      · exact h
    | returned wt cl =>
      obtain ⟨_, _, _, -, -, -, hf, -⟩ := cl
      have hd := congrArg FlightView.dispatches hf
      exact mem_of_mem_erase
        ((show s'.dispatches = s₁.dispatches.erase _ from hd) ▸ h)
    | @resolved _ key record known live cl =>
      obtain ⟨_, _, _, -, -, -, hf, -⟩ :=
        cl (.unresolved record.operation) (by simp [Stage.resolvable])
      exact (show _ = s₁.dispatches from congrArg FlightView.dispatches hf) ▸ h
    | fenced al journaled ord sound fences rqs ows fl =>
      exact (show _ = s₁.dispatches from congrArg FlightView.dispatches fl) ▸ h
    | refused | ended | forgot | lifted | preflight | reconnecting | reconnected | released
    | flushed => exact h
    | recovered source synced ord sound mem fl =>
      have hd : s'.dispatches = [] := congrArg FlightView.dispatches fl
      simp [hd] at h
    | unrecovered fault source ord la mem fl =>
      have hd : s'.dispatches = [] := congrArg FlightView.dispatches fl
      simp [hd] at h

/-- A placement that goes to the venue finds no risk mutation there. -/
lemma Scoped.idle_of_placed (h : Scoped s) (hc : Coherent S s) {action : Action}
    {dispatch : PlaceOrderDispatchContext} (hb : .place command dispatch ∉ s.dispatches)
    (ha : .place command dispatch ∈ (s.step S action).dispatches) : ∀ other ∈ s.dispatches,
    other.riskScope = none := by
  by_cases hp : action.venueOperation = some .place
  · cases action with
    | placeOrder command' lim reps =>
      cases hr : s.placeRefusal S command' lim reps with
      | some =>
        simp only [step, placeOrder, hr] at ha
        exact absurd ha hb
      | none => exact h.idle (placeRefusal_none hr).2.2.2
    | _ => simp [Action.venueOperation] at hp
  · have hpr : placeless.Permits s action :=
      ⟨.inl trivial, .inl trivial, .inl trivial, .inl trivial, .inl trivial,
        .inl trivial, fun operation ho heq => hp (heq ▸ ho), fun _ _ => trivial⟩
    exact absurd (Moves.placed_before (step_moves hc (.inl trivial) hpr) ha) hb

/-- Over every interleaving of the operations: risk mutations that are at the venue together concern
different accounts or have neither instrument nor symbol in common; at most one of them is a
placement, and it found none of the others there; and the counters of the coordinator count the
running calls. -/
theorem riskDispatches_exclusive (S : Service) (actions : List Action) :
    ((run S actions).dispatches.filterMap Dispatch.riskScope).Pairwise
        RiskMutationDispatchScope.Apart ∧
      ((run S actions).dispatches.filter Dispatch.isPlace).length ≤ 1 ∧
      (∀ action command dispatch, .place command dispatch ∉ (run S actions).dispatches →
        .place command dispatch ∈ (run S (actions ++ [action])).dispatches →
        ∀ other ∈ (run S actions).dispatches, other.riskScope = none) ∧
      (run S actions).riskMutationDispatches.keys.card =
        ((run S actions).dispatches.filter fun dispatch => dispatch.riskScope.isSome).length ∧
      (run S actions).venueDispatchesInFlight = (run S actions).dispatches.length := by
  obtain ⟨hc, -, h⟩ := run_invariant (P := Scoped) ⟨by simp, by simp, by simp⟩
    (fun hc _ h hm => hm.scoped hc h) (meets_unrestricted S {} actions)
  refine ⟨h.apart, h.single, ?_, h.card hc, hc.inFlight⟩
  intro action command dispatch hb ha
  rw [run_append] at ha
  exact h.idle_of_placed hc hb ha

end Hepta
