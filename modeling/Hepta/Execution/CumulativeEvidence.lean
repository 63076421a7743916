import Mathlib.Algebra.Order.Field.Rat
import Mathlib.Data.Finset.Card
import Mathlib.Data.List.Sort
import Mathlib.Data.String.Basic

/-!
# Cumulative execution evidence

The callbacks of an order report cumulative quantities under execution ids. The evidence takes a
report that fits all earlier ones and is ambiguous for good after one that does not. What it ends
with depends neither on the order of the reports nor on their repetition. The doubles of the source
are exact rationals.
-/

namespace Hepta

open Finset List

structure ExecutionReport where
  id : String
  quantity : ℚ
  average : ℚ
  /-- Both numbers are finite. -/
  finite : Bool := true
  priceRevisionPending : Bool := false
  deriving DecidableEq

namespace ExecutionReport

variable (r : ExecutionReport)

def notional : ℚ := r.quantity * r.average

/-- A report that makes no sense by itself. From `2 ^ 1024 - 2 ^ 970` on, a product is rounded to
infinity. -/
def invalid : Bool :=
  r.id = "" || decide (128 < r.id.utf8ByteSize) || decide (r.quantity ≤ 0) ||
    decide (r.average ≤ 0) || !r.finite || decide (2 ^ 1024 - 2 ^ 970 ≤ r.notional)

abbrev Valid : Prop := r.priceRevisionPending = false ∧ r.invalid = false

end ExecutionReport

structure IbCumulativeExecutionEvidence where
  /-- The points: a report for each id, with the time of its receipt. -/
  points : List (ExecutionReport × UInt64) := []
  latestId : String := ""
  reason : String := ""
  ambiguous : Bool := false

namespace IbCumulativeExecutionEvidence

/-- An id up to its last dot; ids that differ after it are corrections of each other. -/
def correctionFamily (id : String) : String :=
  if '.' ∈ id.toList then
    String.ofList ((id.toList.reverse.dropWhile (· ≠ '.')).drop 1).reverse
  else ""

/-- What speaks against a report next to an earlier one. -/
def conflict (r before : ExecutionReport) : Option String :=
  if correctionFamily r.id ≠ "" ∧ correctionFamily r.id = correctionFamily before.id then
    some "IB_EXECUTION_CORRECTION_RECONCILIATION_REQUIRED"
  else if r.quantity = before.quantity then some "IB_EXECUTION_CUMULATIVE_ID_CONFLICT"
  else if (before.quantity < r.quantity ∧ r.notional ≤ before.notional) ∨
      (r.quantity < before.quantity ∧ before.notional ≤ r.notional) then
    some "IB_EXECUTION_CUMULATIVE_NOTIONAL_CONFLICT"
  else none

variable (e : IbCumulativeExecutionEvidence) (r : ExecutionReport) (observedAtMs : UInt64)

def reject (reason : String) : IbCumulativeExecutionEvidence × Bool :=
  ({ e with ambiguous := true, reason }, false)

def reports : List ExecutionReport := e.points.map Prod.fst

def point (id : String) : Option ExecutionReport := e.reports.find? fun s => s.id = id

/-- The point of the latest id; without one the numbers are zero. -/
def latest : ExecutionReport := (e.point e.latestId).getD ⟨"", 0, 0, true, false⟩

def addPoint : IbCumulativeExecutionEvidence :=
  { e with
    points := (r, observedAtMs) :: e.points
    latestId := if e.latestId = "" ∨ e.latest.quantity < r.quantity then r.id else e.latestId }

/-- The part of `Observe` for an id without a point; the points are traversed in the order of their
ids. -/
def observeNew : IbCumulativeExecutionEvidence × Bool :=
  if 128 ≤ e.points.length then e.reject "IB_EXECUTION_EVIDENCE_CAPACITY"
  else match (e.reports.insertionSort fun a b => a.id ≤ b.id).findSome? (conflict r) with
    | some reason => e.reject reason
    | none => (e.addPoint r observedAtMs, true)

def observe : IbCumulativeExecutionEvidence × Bool :=
  if e.ambiguous then (e, false)
  else if r.priceRevisionPending then e.reject "IB_EXECUTION_PRICE_REVISION_PENDING"
  else if r.invalid then e.reject "IB_EXECUTION_CUMULATIVE_INVALID"
  else match e.point r.id with
    | some existing =>
      if existing.quantity ≠ r.quantity ∨ existing.average ≠ r.average then
        e.reject "IB_EXECUTION_ID_REPLAY_CONFLICT"
      else (e, true)
    | none => e.observeNew r observedAtMs

def run (l : List (ExecutionReport × UInt64)) : IbCumulativeExecutionEvidence :=
  l.foldl (fun e x => (e.observe x.1 x.2).1) {}

/-! ### Reports that fit -/

/-- Two reports stand together: one id has one report, and distinct ids are no corrections of each
other and have a notional that grows with the quantity. -/
def Fits (r s : ExecutionReport) : Prop :=
  if r.id = s.id then r = s
  else (correctionFamily r.id = correctionFamily s.id → correctionFamily r.id = "") ∧
    r.quantity ≠ s.quantity ∧ (r.quantity < s.quantity → r.notional < s.notional)

structure Coherent (R : Finset ExecutionReport) : Prop where
  valid : ∀ r ∈ R, r.Valid
  /-- There is a report for each id, and at most 128 ids. -/
  capacity : R.card ≤ 128
  fits : ∀ r ∈ R, ∀ s ∈ R, Fits r s

/-- The points are the reports, and the latest one has the largest quantity. -/
structure Holds (R : Finset ExecutionReport) (e : IbCumulativeExecutionEvidence) : Prop where
  members : e.reports.toFinset = R
  length : e.points.length = R.card
  largest : R = ∅ ∧ e.latestId = "" ∨
    ∃ s ∈ R, s.id = e.latestId ∧ ∀ r ∈ R, r.quantity ≤ s.quantity

def Reflects (R : Finset ExecutionReport) (e : IbCumulativeExecutionEvidence) : Prop :=
  e.ambiguous = true ∧ ¬Coherent R ∨ e.ambiguous = false ∧ Coherent R ∧ Holds R e

variable {e : IbCumulativeExecutionEvidence} {r s : ExecutionReport} {R : Finset ExecutionReport}
  {observedAtMs : UInt64}

lemma conflict_eq_none_iff (hi : s.id ≠ r.id) : conflict r s = none ↔ Fits r s ∧ Fits s r := by
  unfold conflict Fits
  grind

lemma Coherent.of_insert (h : Coherent (insert r R)) : Coherent R where
  valid s hs := h.valid s (mem_insert_of_mem hs)
  capacity := (card_le_card (subset_insert r R)).trans h.capacity
  fits s hs t ht := h.fits s (mem_insert_of_mem hs) t (mem_insert_of_mem ht)

lemma Coherent.cons (h : Coherent R) (hr : r.Valid) (hc : (insert r R).card ≤ 128)
    (hf : ∀ s ∈ R, Fits r s ∧ Fits s r) : Coherent (insert r R) where
  valid := (forall_mem_insert ..).mpr ⟨hr, h.valid⟩
  capacity := hc
  fits s hs t ht := by
    rw [mem_insert] at hs ht
    rcases hs with rfl | hs <;> rcases ht with rfl | ht
    · simp [Fits]
    · exact (hf t ht).1
    · exact (hf s hs).2
    · exact h.fits s hs t ht

lemma Coherent.eq_of_id (h : Coherent R) (hr : r ∈ R) (hs : s ∈ R) (hi : r.id = s.id) : r = s := by
  have hf := h.fits r hr s hs
  rwa [Fits, if_pos hi] at hf

/-! ### One report -/

lemma Holds.mem_reports (h : Holds R e) : s ∈ e.reports ↔ s ∈ R := by
  rw [← h.members, mem_toFinset]

lemma Holds.latest_eq (hc : Coherent R) (h : Holds R e) (hs : s ∈ R) (hi : s.id = e.latestId) :
    e.latest = s := by
  rw [latest]
  cases hpn : e.point e.latestId with
  | none => simpa [hi] using List.find?_eq_none.mp hpn s (h.mem_reports.mpr hs)
  | some p =>
    have hp : p ∈ R := h.mem_reports.mp (mem_of_find?_eq_some hpn)
    have hd : p.id = e.latestId := by simpa using List.find?_some hpn
    exact hc.eq_of_id hp hs (hd.trans hi.symm)

lemma Holds.cons (hc : Coherent R) (h : Holds R e) (hr : r ∉ R) :
    Holds (insert r R) (e.addPoint r observedAtMs) where
  members := by
    rw [← h.members]
    exact toFinset_cons
  length := by
    rw [card_insert_of_notMem hr, ← h.length]
    rfl
  largest := by
    right
    rcases h.largest with ⟨rfl, he⟩ | ⟨s, hs, hi, hm⟩
    · exact ⟨r, by simp, by simp [addPoint, he], by simp⟩
    have hnn : e.latestId ≠ "" := by
      have hvalid := (hc.valid s hs).2
      intro he
      simp [ExecutionReport.invalid, hi, he] at hvalid
    simp only [addPoint, hnn, h.latest_eq hc hs hi, false_or, mem_insert]
    split_ifs with hl
    · exact ⟨r, .inl rfl, rfl, by grind⟩
    · exact ⟨s, .inr hs, hi, by grind⟩

lemma Reflects.refused (reason : String) (h : ¬Coherent R) : Reflects R (e.reject reason).1 :=
  .inl ⟨rfl, h⟩

lemma Reflects.cons (hc : Coherent R) (h : Holds R e) (ha : e.ambiguous = false) (hr : r.Valid)
    (hnn : e.point r.id = none) : Reflects (insert r R) (e.observeNew r observedAtMs).1 := by
  have he : ∀ s ∈ R, s.id ≠ r.id := fun s hs => by
    simpa using List.find?_eq_none.mp hnn s (h.mem_reports.mpr hs)
  have hw : r ∉ R := fun hr => he r hr rfl
  have hcr := card_insert_of_notMem hw
  rw [← h.length] at hcr
  unfold observeNew
  split_ifs with hl
  · refine .refused _ fun hc' => ?_
    have := hc'.capacity
    omega
  split
  next reason hrs =>
    obtain ⟨s, hs, hcn⟩ := exists_of_findSome?_eq_some hrs
    rw [mem_insertionSort, h.mem_reports] at hs
    refine .refused _ fun hc' => ?_
    have hf := hc'.fits r (by simp) s (by simp [hs])
    have hf' := hc'.fits s (by simp [hs]) r (by simp)
    simp [(conflict_eq_none_iff (he s hs)).mpr ⟨hf, hf'⟩] at hcn
  next hrs =>
    refine .inr ⟨ha, hc.cons hr (by omega) fun s hs => ?_, h.cons hc hw⟩
    refine (conflict_eq_none_iff (he s hs)).mp (findSome?_eq_none_iff.mp hrs s ?_)
    rwa [mem_insertionSort, h.mem_reports]

lemma Reflects.step (h : Reflects R e) : Reflects (insert r R) (e.observe r observedAtMs).1 := by
  unfold observe
  rcases h with ⟨ha, hc⟩ | ⟨ha, hc, h⟩
  · rw [if_pos ha]
    exact .inl ⟨ha, fun hc' => hc hc'.of_insert⟩
  rw [if_neg (by simp [ha])]
  split_ifs with hpn hi
  · exact .refused _ fun hc => by simpa [hpn] using (hc.valid r (by simp)).1
  · exact .refused _ fun hc => by simpa [hi] using (hc.valid r (by simp)).2
  have hr : r.Valid := by simp_all [ExecutionReport.Valid]
  split
  next existing hp =>
    have hm : existing ∈ R := h.mem_reports.mp (mem_of_find?_eq_some hp)
    have hid : existing.id = r.id := by simpa using List.find?_some hp
    split_ifs with hd
    · refine .refused _ fun hc' => ?_
      obtain rfl := hc'.eq_of_id (by simp [hm]) (by simp) hid
      simp at hd
    · -- the report came before
      have hs : existing = r := by
        have hvalid := hc.valid existing hm
        simp only [ExecutionReport.Valid, ExecutionReport.invalid, Bool.or_eq_false_iff,
          Bool.not_eq_false'] at hr hvalid
        cases existing
        cases r
        simp_all
      rw [← hs, insert_eq_of_mem hm]
      exact .inr ⟨ha, hc, h⟩
  next hnn => exact .cons hc h ha hr hnn

/-! ### All reports -/

def contents (l : List (ExecutionReport × UInt64)) : Finset ExecutionReport :=
  (l.map Prod.fst).toFinset

lemma reflects_run (l : List (ExecutionReport × UInt64)) : Reflects (contents l) (run l) := by
  induction l using reverseRecOn with
  | nil =>
    have hc : Coherent ∅ := ⟨by simp, by simp, by simp⟩
    exact .inr ⟨rfl, hc, rfl, rfl, .inl ⟨rfl, rfl⟩⟩
  | append_singleton l x ih =>
    have hcn : contents (l ++ [x]) = insert x.1 (contents l) := by
      ext r
      simp [contents]
    rw [run, foldl_append, hcn]
    exact ih.step

/-- Reports with the same contents, in any order and repeated at any times, end in the same
evidence. -/
theorem evidence_order_independent {l l' : List (ExecutionReport × UInt64)}
    (hsame : contents l = contents l') :
    (run l).ambiguous = (run l').ambiguous ∧
      ((run l).ambiguous = false ↔ Coherent (contents l)) ∧
      ((run l).ambiguous = false →
        (run l).reports.toFinset = contents l ∧ (run l').reports.toFinset = contents l ∧
        (l ≠ [] → (run l).latest = (run l').latest ∧ (run l).latest ∈ (run l).reports ∧
          ∀ r ∈ (run l).reports, r.quantity ≤ (run l).latest.quantity)) := by
  have hrn := reflects_run l
  have hrn' := reflects_run l'
  rw [← hsame] at hrn'
  rcases hrn with ⟨ha, hc⟩ | ⟨hl, hc, h⟩
  · rcases hrn' with ⟨ha', -⟩ | ⟨-, hc', -⟩
    · simp [ha, ha', hc]
    · exact absurd hc' hc
  rcases hrn' with ⟨-, hc'⟩ | ⟨hl', -, h'⟩
  · exact absurd hc hc'
  refine ⟨hl.trans hl'.symm, iff_of_true hl hc, fun _ => ⟨h.members, h'.members, ?_⟩⟩
  intro he
  have hnn : contents l ≠ ∅ := by simpa [contents] using he
  obtain ⟨s, hs, hi, hm⟩ := h.largest.resolve_left fun hnl => hnn hnl.1
  obtain ⟨t, ht, hi', hm'⟩ := h'.largest.resolve_left fun hnl => hnn hnl.1
  -- the largest quantity belongs to one id
  obtain rfl : s = t := by
    have hf := hc.fits s hs t ht
    have hle := hm' s hs
    have hg := hm t ht
    unfold Fits at hf
    grind
  rw [h.latest_eq hc hs hi, h'.latest_eq hc hs hi']
  exact ⟨rfl, h.mem_reports.mpr hs, fun r hr => hm r (h.mem_reports.mp hr)⟩

/-- Two ids without a dot have the same empty correction family, and two values under one id are
refused although no two ids differ. -/
theorem evidence_shares_empty_family :
    (run [(⟨"a", 1, 1, true, false⟩, 1), (⟨"b", 2, 1, true, false⟩, 2)]).ambiguous = false ∧
      correctionFamily "a" = correctionFamily "b" ∧
      (run [(⟨"a.1", 1, 1, true, false⟩, 1), (⟨"a.1", 2, 1, true, false⟩, 2)]).ambiguous = true := by
  decide +kernel

theorem evidence_of_swapped_reports :
    (run [(⟨"a.1", 1, 1, true, false⟩, 1), (⟨"b.1", 2, 1, true, false⟩, 2)]).latest =
      (run [(⟨"b.1", 2, 1, true, false⟩, 3), (⟨"a.1", 1, 1, true, false⟩, 4),
        (⟨"b.1", 2, 1, true, false⟩, 5)]).latest :=
  (((evidence_order_independent (by decide +kernel)).2.2 (by decide +kernel)).2.2 (by simp)).1

end IbCumulativeExecutionEvidence

end Hepta
