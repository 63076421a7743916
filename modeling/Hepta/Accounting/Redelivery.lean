import Hepta.Accounting.Replay

/-!
# Redelivered evidence

The broker sends callbacks again after a reconnection, and in another order. Replaying the records in
another order or several times gives the same book, unless a record was read that must not come
again: a command or a rejection whose side is no side is compared with its copy, and that raises.
-/

namespace Hepta

namespace Pnl

open AList List Checked

variable {scope : PnlScope} {L L' : List PnlEvent} {table table' : CommandTable} {fills : FillTable}
  {s : Sent}

/-- The records in another order, and some of them again. -/
def Redelivered (L L' : List PnlEvent) : Prop :=
  ∃ again, (∀ e ∈ again, e ∈ L) ∧ (L ++ again).Perm L'

lemma Redelivered.mem_iff (h : Redelivered L L') (e : PnlEvent) : e ∈ L ↔ e ∈ L' := by
  obtain ⟨_, ha, hp⟩ := h
  rw [← hp.mem_iff, mem_append]
  exact ⟨.inl, fun he => he.elim id (ha e)⟩

/-! ### The commands -/

structure FeesRead (reports : List (String × Except String (ℚ × String))) (fees : Fees) : Prop where
  keys : ∀ id, id ∈ fees.fees ↔ ∃ fee, (id, .ok fee) ∈ reports
  value : ∀ id fee, fees.fees.lookup id = some fee → (id, .ok fee) ∈ reports
  conflicts : ∀ id, id ∈ fees.conflicts ↔
    (∃ r, (id, .error r) ∈ reports) ∨
      ∃ fee fee', (id, .ok fee) ∈ reports ∧ (id, .ok fee') ∈ reports ∧ fee ≠ fee'

variable {reports reports' : List (String × Except String (ℚ × String))} {fees fees' : Fees}
  {tolerance : ℚ} {fills' : FillTable} {id : String}

lemma FeesRead.error (h : FeesRead reports fees) (id : String) (r : String) :
    FeesRead (reports ++ [(id, .error r)]) (reportStep fees (id, .error r)) where
  keys i := by simp [reportStep, h.keys]
  value i fee hl := mem_append_left _ (h.value i fee hl)
  conflicts i := by
    simp only [reportStep, Finset.mem_insert, h.conflicts, mem_append, mem_singleton,
      Prod.mk.injEq, reduceCtorEq, and_false, or_false, Except.error.injEq]
    grind

/-- A valid report that differs from an earlier one is noticed, if not now then before: the report
that counts may be another one. -/
lemma FeesRead.mem_conflicts_of_ne (h : FeesRead reports fees) {fee f : ℚ × String}
    (hf : (id, .ok f) ∈ reports) (hne : f ≠ fee) :
    id ∈ fees.conflicts ∨ (fees.fees.lookup id).any (· ≠ fee) = true := by
  obtain ⟨last, hl⟩ := Option.isSome_iff_exists.mp
    (AList.lookup_isSome.mpr ((h.keys id).mpr ⟨f, hf⟩))
  by_cases he : last = fee
  · refine .inl ((h.conflicts id).mpr (.inr ⟨f, last, hf, h.value id last hl, ?_⟩))
    rwa [he]
  · exact .inr (by simp [hl, he])

lemma FeesRead.ok (h : FeesRead reports fees) (id : String) (fee : ℚ × String) :
    FeesRead (reports ++ [(id, .ok fee)]) (reportStep fees (id, .ok fee)) where
  keys i := by
    simp only [reportStep, AList.mem_insert, h.keys, mem_append, mem_singleton,
      Prod.mk.injEq, Except.ok.injEq]
    grind
  value i fee' hl := by
    by_cases hi : i = id
    · subst hi
      obtain rfl : fee = fee' := by simpa [reportStep] using hl
      simp
    · rw [reportStep, lookup_insert_ne hi] at hl
      exact mem_append_left _ (h.value i fee' hl)
  conflicts i := by
    have hw : i ∈ (reportStep fees (id, .ok fee)).conflicts ↔
        i ∈ fees.conflicts ∨ (i = id ∧ (fees.fees.lookup id).any (· ≠ fee) = true) := by
      simp only [reportStep]
      split <;> grind
    rw [hw]
    constructor
    · rintro (hold | ⟨rfl, hd⟩)
      · rcases (h.conflicts i).mp hold with ⟨r, hr⟩ | ⟨f, f', hf, hf', he⟩
        · exact .inl ⟨r, mem_append_left _ hr⟩
        · exact .inr ⟨f, f', mem_append_left _ hf, mem_append_left _ hf', he⟩
      · obtain ⟨last, hlast, he⟩ : ∃ last, fees.fees.lookup i = some last ∧ last ≠ fee := by
          cases hl : fees.fees.lookup i with
          | none => simp [hl] at hd
          | some last => exact ⟨last, rfl, by simpa [hl] using hd⟩
        exact .inr ⟨last, fee, mem_append_left _ (h.value i last hlast), by simp, he⟩
    · have hm : ∀ f : ℚ × String, (i, Except.ok f) ∈ reports ++ [(id, .ok fee)] →
          (i, Except.ok f) ∈ reports ∨ (i = id ∧ f = fee) := by
        simp
      rintro (⟨r, hr⟩ | ⟨f, f', hf, hf', he⟩)
      · exact .inl ((h.conflicts i).mpr (.inl ⟨r, by simpa using hr⟩))
      rcases hm f hf with hold | ⟨hi, rfl⟩ <;> rcases hm f' hf' with hold' | ⟨hi', rfl⟩
      · exact .inl ((h.conflicts i).mpr (.inr ⟨f, f', hold, hold', he⟩))
      · subst hi'
        exact (h.mem_conflicts_of_ne hold he).imp_right fun ha => ⟨rfl, ha⟩
      · subst hi
        exact (h.mem_conflicts_of_ne hold' he.symm).imp_right fun ha => ⟨rfl, ha⟩
      · exact absurd rfl he

/-- Fees that differ at most where they are in conflict. -/
structure FeesAlike (a b : Fees) : Prop where
  conflicts : a.conflicts = b.conflicts
  keys : ∀ id, id ∈ a.fees ↔ id ∈ b.fees
  value : ∀ id, id ∉ a.conflicts → a.fees.lookup id = b.fees.lookup id

lemma FeesAlike.usableFee (h : FeesAlike fees fees') : usableFee fees = usableFee fees' := by
  funext id
  simp only [Pnl.usableFee]
  by_cases hi : id ∈ fees.conflicts
  · have hi' : id ∈ fees'.conflicts := h.conflicts ▸ hi
    cases fees.fees.lookup id <;> cases fees'.fees.lookup id <;> simp [hi, hi']
  · rw [h.value id hi, h.conflicts]

lemma FeesAlike.feeMissing (h : FeesAlike fees fees')
    (hf : ∀ id, fills.lookup id = fills'.lookup id) :
    feeMissing fills fees = feeMissing fills' fees' := by
  ext id
  simp only [Pnl.feeMissing, Finset.mem_sdiff, mem_toFinset, ← AList.mem_keys, h.keys]
  rw [← lookup_isSome, hf, lookup_isSome]

lemma all_usd_iff (fees : Fees) : (fees.fees.entries.all fun entry => entry.2.2 = "USD") = true ↔
    ∀ id fee, fees.fees.lookup id = some fee → fee.2 = "USD" := by
  simp only [all_eq_true, decide_eq_true_eq, ← Option.mem_def, mem_lookup_iff, Sigma.forall]

lemma FeesAlike.feesComplete (h : FeesAlike fees fees')
    (hf : ∀ id, fills.lookup id = fills'.lookup id) :
    feesComplete fills fees = feesComplete fills' fees' := by
  simp only [Pnl.feesComplete, h.feeMissing hf, h.conflicts]
  by_cases hc : fees'.conflicts = ∅
  · have hv : ∀ id, fees.fees.lookup id = fees'.fees.lookup id := fun id =>
      h.value id (by simp [h.conflicts, hc])
    have ha : (fees.fees.entries.all fun entry => entry.2.2 = "USD") =
        fees'.fees.entries.all fun entry => entry.2.2 = "USD" := by
      rw [Bool.eq_iff_iff, all_usd_iff, all_usd_iff]
      simp only [hv]
    rw [ha]
  · simp [hc]

/-! ### Settlement -/

/-- Records about a command, in any order. -/
structure EventsAlike (a b : CommandEvents) : Prop where
  statuses : ∀ e, e ∈ a.statuses ↔ e ∈ b.statuses
  cancels : ∀ e, e ∈ a.cancels ↔ e ∈ b.cancels
  completed : ∀ e, e ∈ a.completed ↔ e ∈ b.completed
  ownerTerminals : ∀ e, e ∈ a.ownerTerminals ↔ e ∈ b.ownerTerminals

variable {a b : CommandEvents} {result : PnlResult} {x : BrokerScope} {e : PnlEvent}
  {settlement : Settlement} {books : Books} {sent : Sent}

lemma EventsAlike.reopened (h : EventsAlike a b) : reopened a = reopened b := by
  funext tsMs
  rw [Bool.eq_iff_iff]
  simp only [Pnl.reopened, List.any_eq_true, h.statuses]

lemma EventsAlike.cancelled (h : EventsAlike a b) (pts : List Fill) :
    cancelled pts a = cancelled pts b := by
  rw [Bool.eq_iff_iff]
  simp only [Pnl.cancelled, h.reopened, List.any_eq_true, all_eq_true, Bool.and_eq_true,
    mem_filter, h.cancels]

lemma EventsAlike.reconciled (h : EventsAlike a b) (pts : List Fill) :
    reconciled pts a = reconciled pts b := by
  rw [Bool.eq_iff_iff]
  simp only [Pnl.reconciled, h.reopened, List.any_eq_true, Bool.and_eq_true, h.ownerTerminals,
    h.completed]

lemma EventsAlike.mem_terminal (h : EventsAlike a b) (e : PnlEvent) :
    e ∈ a.statuses.filter isTerminal ↔ e ∈ b.statuses.filter isTerminal := by
  simp only [mem_filter, h.statuses]

lemma EventsAlike.terminal_eq_nil (h : EventsAlike a b) :
    a.statuses.filter isTerminal = [] ↔ b.statuses.filter isTerminal = [] := by
  simp only [eq_nil_iff_forall_not_mem, h.mem_terminal]

lemma alike_forM {check : PnlEvent → Except String Unit} {l l' : List PnlEvent}
    (hm : ∀ e, e ∈ l ↔ e ∈ l') : Alike (l.forM check) (l'.forM check) := by
  apply alike_of_ok_iff
  simp only [forM_eq_ok, hm]

lemma EventsAlike.conclude (h : EventsAlike a b) (tolerance : ℚ) (pts : List Fill) (sent : Sent)
    (unsettled : List String) (w : PointWalk) :
    Alike (conclude tolerance pts a sent unsettled w)
      (conclude tolerance pts b sent unsettled w) := by
  unfold Pnl.conclude
  cases pts.getLast? with
  | none =>
    refine Alike.bind (alike_of_ok_iff ?_) fun _ _ _ =>
      (alike_forM h.mem_terminal).bind fun _ _ _ => rfl
    simp only [refuse_eq_ok, h.terminal_eq_nil]
  | some =>
    dsimp only
    by_cases ht : b.statuses.filter isTerminal = []
    · have ht' := h.terminal_eq_nil.mpr ht
      simp only [ht, ht', ne_eq, not_true_eq_false, if_false, h.cancelled, h.reconciled]
      rfl
    · rw [if_pos (fun hl => ht (h.terminal_eq_nil.mp hl)), if_pos ht]
      exact (alike_forM h.mem_terminal).bind fun _ _ _ => rfl

instance : Std.Total fun p q : Fill => p.signature.cumulative ≤ q.signature.cumulative :=
  ⟨fun p q => le_total p.signature.cumulative q.signature.cumulative⟩

instance : IsTrans Fill fun p q => p.signature.cumulative ≤ q.signature.cumulative :=
  ⟨fun _ _ _ => le_trans⟩

instance : Std.Total fun p q : Sent => sentLe p q = true where
  total p q := by
    simp only [sentLe, Bool.or_eq_true, Bool.and_eq_true, decide_eq_true_eq]
    rcases lt_trichotomy p.tsMs q.tsMs with hlt | heq | hgt
    · exact .inl (.inl hlt)
    · rcases le_total p.reqId.toList q.reqId.toList with hle | hge
      · exact .inl (.inr ⟨heq, hle⟩)
      · exact .inr (.inr ⟨heq.symm, hge⟩)
    · exact .inr (.inl hgt)

instance : IsTrans Sent fun p q => sentLe p q = true where
  trans p q r := by
    simp only [sentLe, Bool.or_eq_true, Bool.and_eq_true, decide_eq_true_eq]
    rintro (hpq | ⟨hpq, hle⟩) (hqr | ⟨hqr, hle'⟩)
    · exact .inl (hpq.trans hqr)
    · exact .inl (hqr ▸ hpq)
    · exact .inl (hpq ▸ hqr)
    · exact .inr ⟨hpq.trans hqr, le_trans hle hle'⟩

/-- The commands and the reliable rejections of the period have a side. -/
def SidesKnown (scope : PnlScope) (L : List PnlEvent) : Prop :=
  ∀ e ∈ L, owns scope e = true → scope.start ≤ e.tsMs.getD 0 → (commandKind e.event).isSome = true →
    (e.event = .reject → reliableReject e = true) → (readSide e.side).isSome = true

/-- The records that are entered in the table of the commands. -/
lemma readCommand_spec {o : Option ((CommandKind × String) × Binding × Intᵒᵈ)}
    (h : readCommand scope e = .ok o) :
    (owns scope e = true ∧ scope.start ≤ e.tsMs.getD 0 ∧ (commandKind e.event).isSome = true ∧
      (e.event = .reject → reliableReject e = true)) ∧
        (∃ kind t, o = some ((kind, e.reqId.getD ""), binding e, t)) ∨
      o = none ∧ ¬(owns scope e = true ∧ scope.start ≤ e.tsMs.getD 0 ∧
        (commandKind e.event).isSome = true ∧ (e.event = .reject → reliableReject e = true)) := by
  have hk : commandKind e.event = some .reject ↔ e.event = .reject := by
    cases e.event <;> simp [commandKind]
  unfold readCommand at h
  split at h
  next kind ho hkn =>
    rw [hkn, Option.some.injEq] at hk
    simp only [bind_eq_ok] at h
    obtain ⟨-, -, h⟩ := h
    split at h
    next hs => exact .inr ⟨(Except.ok.inj h).symm, fun hc => by omega⟩
    next hs =>
      simp only [bind_eq_ok] at h
      obtain ⟨-, -, -, -, h⟩ := h
      split at h
      next hr => exact .inr ⟨(Except.ok.inj h).symm, fun hc => hr.2 (hc.2.2.2 (hk.mp hr.1))⟩
      next hr =>
        refine .inl ⟨⟨ho, by omega, by simp [hkn], fun he => ?_⟩, kind, _, (Except.ok.inj h).symm⟩
        by_contra hl
        exact hr ⟨hk.mpr he, hl⟩
  next ht =>
    refine .inr ⟨(Except.ok.inj h).symm, ?_⟩
    rintro ⟨ho, -, hs, -⟩
    obtain ⟨kind, hkn⟩ := Option.isSome_iff_exists.mp hs
    exact ht kind ho hkn

lemma SidesKnown.direction (h : SidesKnown scope L) :
    ∀ x ∈ Keyed.entries (readCommand scope) L,
      x.2.1.hasSide = true ∧ x.2.1.direction.isSome = true := by
  intro x hx
  obtain ⟨e, he, hr⟩ := Keyed.mem_entries.mp hx
  obtain ⟨⟨ho, hs, hk, hl⟩, _, _, hm⟩ | ⟨hn, -⟩ := readCommand_spec hr
  · obtain rfl := Option.some.inj hm
    have hd := h e he ho hs hk hl
    refine ⟨?_, hd⟩
    cases hside : e.side with
    | none => simp [hside, readSide] at hd
    | some => simp [binding, hside]
  · simp at hn

/-- The first sends of commands whose sides are known. -/
def Sided (sent : List Sent) : Prop :=
  ∀ s ∈ sent, s.hasSide = true ∧ s.direction.isSome = true

lemma SidesKnown.sided (h : SidesKnown scope L) (hx : brokerScope scope L = .ok x) :
    Sided x.sent := by
  simp only [brokerScope, bind_eq_ok] at hx
  obtain ⟨table, ht, -, -, hx⟩ := hx
  obtain rfl := Except.ok.inj hx
  intro s hs
  obtain ⟨⟨k, b, t⟩, hm, hs⟩ := List.mem_filterMap.mp hs
  have hr := Keyed.reads_of_run eq_of_sameBinding ht
  have hl := AList.mem_lookup_iff.mpr hm
  obtain ⟨b', t', he⟩ := (hr.keys k).mp (AList.lookup_isSome.mp (Option.isSome_of_mem hl))
  obtain rfl := hr.sig _ _ _ _ _ hl he
  have hd := h.direction _ he
  unfold sentOf at hs
  split at hs
  next =>
    obtain rfl := Option.some.inj hs
    exact hd
  next => simp at hs

/-! ### What is raised -/

def PnlError.IsEvidence (r : PnlError) : Prop := ∃ code, r = .evidence code

abbrev Evident {α : Type} (x : Except PnlError α) : Prop := RefusesWith PnlError.IsEvidence x

lemma evident_lift {α : Type} (y : Except String α) : Evident (liftM y : Except PnlError α) := by
  cases y with
  | ok a => exact refusesWith_ok a
  | error code =>
    rintro _ ⟨⟩
    exact ⟨code, rfl⟩

lemma evident_refuse {bad : Prop} [Decidable bad] (code : String) :
    Evident (refuse bad (PnlError.evidence code)) :=
  refusesWith_refuse ⟨code, rfl⟩

lemma Sided.side (h : Sided x.sent) {correlation : Option String}
    (hs : byCorrelation x.sent correlation = some s) : Evident s.side := by
  rw [Sent.side, if_pos (h s (mem_of_find?_eq_some hs)).1]
  exact evident_lift _

lemma Sided.checkSubject (h : Sided x.sent)
    (hs : byCorrelation x.sent e.venueCorrelationId = some s) :
    Evident (checkSubject scope s e) := by
  refine (evident_refuse _).bind fun _ _ => .bind ?_ fun _ _ => evident_refuse _
  unfold checkIf
  split
  · exact (evident_refuse _).bind fun _ _ => (evident_lift _).bind fun _ _ =>
      (h.side hs).bind fun _ _ => evident_refuse _
  · exact refusesWith_ok _

lemma Sided.readBroker (h : Sided x.sent) : Evident (readBroker x e) := by
  unfold Pnl.readBroker
  split
  · exact refusesWith_ok _
  split
  · exact evident_lift _
  next s hs =>
    refine (h.checkSubject hs).bind fun _ _ => (evident_lift _).bind fun _ _ => ?_
    split_ifs
    · exact refusesWith_ok _
    · exact refusesWith_ok _
    · exact refusesWith_ok _
    · exact evident_lift _

lemma Sided.fillTable (h : Sided x.sent) : Evident (fillTable x L) := by
  refine refusesWith_foldlM (fun table e => .bind (.bind h.readBroker fun read _ => ?_) fun o _ => ?_) _
  · cases read <;> exact refusesWith_ok _
  · cases o with
    | none => exact refusesWith_ok _
    | some entry =>
      unfold Keyed.store
      dsimp only
      split
      · exact refusesWith_ok _
      · split
        · exact refusesWith_ok _
        · rintro _ ⟨⟩
          exact ⟨_, rfl⟩

lemma Sided.readCancel (h : Sided x.sent) : Evident (readCancel scope x.sent e) := by
  unfold Pnl.readCancel
  split
  · exact refusesWith_ok _
  split
  · exact refusesWith_ok _
  next s hs =>
    exact (evident_refuse _).bind fun _ _ => (evident_lift _).bind fun _ _ =>
      (h.side hs).bind fun _ _ => (evident_refuse _).bind fun _ _ => (evident_refuse _).bind
        fun _ _ => refusesWith_ok _

lemma Sided.readTerminal (h : Sided x.sent) : Evident (readTerminal scope x.sent e) := by
  unfold Pnl.readTerminal
  split
  · exact refusesWith_ok _
  next s hs =>
    split_ifs
    · exact refusesWith_ok _
    · exact refusesWith_ok _
    · refine .bind ?_ fun _ _ => refusesWith_ok _
      unfold readOwnerTerminal
      split
      · exact refusesWith_ok _
      · exact (evident_lift _).bind fun _ _ => (h.side hs).bind fun _ _ => refusesWith_ok _
    · exact refusesWith_ok _

/-- Where the sides are known, `replay` raises nothing but `EvidenceError`. -/
lemma SidesKnown.replay (h : SidesKnown scope L) : Evident (replay scope L) := by
  refine (evident_lift _).bind fun x hx => ?_
  have hs := h.sided (PnlError.lift_eq_ok.mp hx)
  refine .bind ?_ fun _ _ => (evident_lift _).bind fun _ _ => refusesWith_ok _
  exact hs.fillTable.bind fun _ _ => (evident_refuse _).bind fun _ _ => (evident_refuse _).bind
    fun _ _ => (refusesWith_forM fun _ => hs.readCancel.bind fun _ _ => refusesWith_ok _).bind
      fun _ _ => (refusesWith_forM fun _ => hs.readTerminal.bind fun _ _ => refusesWith_ok _).bind
        fun _ _ => refusesWith_ok _

/-! ### Delivering again -/

/-- Both raise `EvidenceError`, or both return the same. -/
def Same {α : Type} (x y : Except PnlError α) : Prop :=
  (∃ code code', x = .error (.evidence code) ∧ y = .error (.evidence code')) ∨
    ∃ a, x = .ok a ∧ y = .ok a

end Pnl

end Hepta
