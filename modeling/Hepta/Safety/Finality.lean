import Hepta.Moves.Step

/-!
# What a run keeps

The records that are synced stay, whatever fails and wherever the process ends. Between two
recoveries every accepted record stays in its place, no command loses its identity, and the outcome
of a command that is settled is final.
-/

namespace Hepta

open List OmsJournal Hepta.System Coordinator

variable {S : Service} {A : Allowance} {s s₁ s' : System}

lemma System.coherent_run (actions : List Action) : Coherent S (run S actions) :=
  (run_invariant (P := fun _ => True) trivial (fun _ _ _ _ => trivial)
    (meets_unrestricted S {} actions)).1

/-- What every move keeps is kept by a run that goes on. -/
lemma System.run_related {R : System → System → Prop} (hr : ∀ s, R s s)
    (ht : ∀ {a b c}, R a b → R b c → R a c)
    (hk : ∀ {s s'}, Coherent S s → Move S A s s' → R s s') (hf : A.fault) (front : List Action)
    {back : List Action} (hp : meets S A.Permits (run S front) back) :
    R (run S front) (run S (front ++ back)) := by
  have hc := coherent_run (S := S) front
  rw [run, run, foldl_append, ← run]
  generalize run S front = s at hc hp
  induction back generalizing s with
  | nil => exact hr s
  | cons a back ih =>
    have hm : ∀ s', Moves S A s s' → Coherent S s' ∧ R s s' := by
      intro s' hm
      induction hm with
      | refl => exact ⟨hc, hr s⟩
      | tail _ hv ih => exact ⟨hv.coherent ih.1, ht ih.2 (hk ih.1 hv)⟩
    obtain ⟨hc', hs⟩ := hm _ (step_moves hc (.inl hf) hp.1)
    exact ht hs (ih _ hc' hp.2)

/-- Only a recovery drops records, and none that is synced. -/
lemma Move.journaled (hv : Move S A s s') :
    (∃ events, Journaled S.config s.journal events s'.journal) ∨
      A.recover ∧ s.journal.synced <+: s'.journal.synced := by
  cases hv with
  | opened _ _ hc =>
    obtain ⟨_, _, hw, -⟩ := hc
    exact .inl ⟨_, hw.journaled⟩
  | dispatched _ _ hw => exact .inl ⟨_, hw.journaled⟩
  | returned _ hc =>
    obtain ⟨_, _, hw, -⟩ := hc
    exact .inl ⟨_, hw.journaled⟩
  | @resolved _ _ record _ _ hc =>
    obtain ⟨_, _, hw, -⟩ := hc (.unresolved record.operation) (by simp [Stage.resolvable])
    exact .inl ⟨_, hw.journaled⟩
  | refused hr =>
    obtain ⟨_, hj, -⟩ := journaled_of_append (.inr hr)
    exact .inl ⟨_, hj⟩
  | fenced _ hj => exact .inl ⟨_, hj⟩
  | ended hn | lifted _ hn => exact .inl ⟨_, .enter hn.enters (.quiet (Quiet.refl _))⟩
  | flushed hq => exact .inl ⟨_, .quiet hq⟩
  | recovered hs hy _ _ _ _ _ _ ha =>
    refine .inr ⟨ha, ?_⟩
    rw [hy]
    rcases hs with ⟨hs, -⟩ | hs
    · rw [hs, records, written, append_assoc]
      exact prefix_append _ _
    · rw [hs]
  | unrecovered _ hs _ _ _ _ _ _ ha =>
    rcases hs with ⟨hq, -⟩ | hq
    · exact .inl ⟨_, .quiet hq⟩
    · exact .inr ⟨ha, hq.synced⟩
  | _ => exact .inl ⟨_, .quiet (Quiet.refl _)⟩

lemma Move.synced (hv : Move S A s s') : s.journal.synced <+: s'.journal.synced := by
  rcases hv.journaled with ⟨_, hj⟩ | ⟨-, hs⟩
  · exact hj.synced
  · exact hs

lemma OmsJournal.Journaled.sublist {cfg : OmsJournalConfig} {j j' : OmsJournal}
    {events : List OmsJournalEvent} (h : Journaled cfg j events j') :
    j.records.Sublist j'.records := by
  induction h with
  | quiet hq => rw [hq.records]
  | @enter _ _ _ e _ hn _ ih =>
    obtain ⟨front, back, hj, hj', -⟩ := hn.inserted
    refine Sublist.trans ?_ ih
    rw [hj, hj']
    exact (Sublist.refl front).append (sublist_cons_self e back)

/-! ### Between two recoveries -/

/-- The command is not at the venue and no resolver touches it. -/
def System.Settled (s : System) (key : String) (record : RequestRecord) : Prop :=
  record.inert ∧ ∀ dispatch ∈ s.dispatches, dispatch.requestKey ≠ key

/-- What the service keeps as long as it runs. -/
structure Proceeds (s s' : System) : Prop where
  records : s.journal.records.Sublist s'.journal.records
  halted : s.journal.writePoisoned = true →
    s'.journal.writePoisoned = true ∧ s'.venueCalls = s.venueCalls
  commands : ∀ key record, s.requests.lookup key = some record →
    ∃ record', s'.requests.lookup key = some record' ∧ record'.identity = record.identity ∧
      (s.Settled key record → s'.Settled key record' ∧
        (record' = record ∨ record' = resolveProjection record))

lemma resolveProjection_idem (record : RequestRecord) :
    resolveProjection (resolveProjection record) = resolveProjection record := by
  unfold resolveProjection
  split_ifs with h h'
  · simp [isProjectionFailureReason] at h'
  · rfl
  · rfl

lemma identity_resolveProjection (record : RequestRecord) :
    (resolveProjection record).identity = record.identity := by
  unfold resolveProjection
  split_ifs <;> rfl

lemma inert_resolveProjection {record : RequestRecord} (h : record.inert) :
    (resolveProjection record).inert := by
  unfold resolveProjection
  split_ifs
  · exact RequestRecord.inert_of_reasonCode rfl
  · exact h

lemma Proceeds.trans (h : Proceeds s s₁) (h' : Proceeds s₁ s') : Proceeds s s' where
  records := h.records.trans h'.records
  halted hp := by
    obtain ⟨hp₁, hv⟩ := h.halted hp
    obtain ⟨hp', hv'⟩ := h'.halted hp₁
    exact ⟨hp', hv'.trans hv⟩
  commands key record hk := by
    obtain ⟨record₁, hk₁, hi, hs⟩ := h.commands key record hk
    obtain ⟨record', hk', hi', hs'⟩ := h'.commands key record₁ hk₁
    refine ⟨record', hk', hi'.trans hi, fun hr => ?_⟩
    obtain ⟨hr₁, ho⟩ := hs hr
    obtain ⟨hr', ho'⟩ := hs' hr₁
    refine ⟨hr', ?_⟩
    rcases ho with rfl | rfl
    · exact ho'
    · rw [resolveProjection_idem, or_self] at ho'
      exact .inr ho'

/-- Work that leaves the commands and the venue alone. -/
lemma Proceeds.of_eq (hj : s.journal.records.Sublist s'.journal.records)
    (hp : s.journal.writePoisoned = true → s'.journal.writePoisoned = true)
    (hr : s'.requests = s.requests) (hd : s'.dispatches = s.dispatches)
    (hc : s'.venueCalls = s.venueCalls) : Proceeds s s' where
  records := hj
  halted h := ⟨hp h, hc⟩
  commands _ record hk := ⟨record, hr ▸ hk, rfl, fun hs => ⟨⟨hs.1, hd ▸ hs.2⟩, .inl rfl⟩⟩

section

variable {key : String} {base : RequestRecord} {start final : RequestRecord → Prop} {stage : Stage}
  {reasons : String → Bool}

/-- Work on one command, which is not settled. -/
lemma Writes.proceeds {record : RequestRecord} {events : List OmsJournalEvent}
    (hw : Writes S A key base start stage s₁ events record s') (hj : s₁.journal = s.journal)
    (hr : s₁.requests = s.requests)
    (hb : ∀ known, s.requests.lookup key = some known →
      known.identity = base.identity ∧ ¬ s.Settled key known)
    (hd : ∀ dispatch ∈ s'.dispatches, dispatch.requestKey = key ∨ dispatch ∈ s.dispatches)
    (hv : s.journal.writePoisoned = true → s'.venueCalls = s.venueCalls) : Proceeds s s' where
  records := hj ▸ hw.journaled.sublist
  halted h := ⟨(hw.poisoned (hj ▸ h)).2, hv h⟩
  commands key' known hk := by
    rw [hw.requests, hr]
    by_cases he : key' = key
    · subst he
      obtain ⟨hi, hn⟩ := hb known hk
      exact ⟨record, Finmap.lookup_insert _, hw.identity.trans hi.symm, fun hs => absurd hs hn⟩
    · rw [Finmap.lookup_insert_of_ne _ he]
      refine ⟨known, hk, rfl, fun hs => ⟨⟨hs.1, fun dispatch hm => ?_⟩, .inl rfl⟩⟩
      rcases hd dispatch hm with hk | hm
      · exact hk ▸ Ne.symm he
      · exact hs.2 dispatch hm

lemma Closes.proceeds (hc : Closes S A key base start stage reasons final s₁ s')
    (hj : s₁.journal = s.journal) (hr : s₁.requests = s.requests)
    (hd : s₁.dispatches ⊆ s.dispatches) (hv : s₁.venueCalls = s.venueCalls)
    (hb : ∀ known, s.requests.lookup key = some known →
      known.identity = base.identity ∧ ¬ s.Settled key known) : Proceeds s s' := by
  obtain ⟨_, _, hw, -, -, -, hl, -⟩ := hc
  have hd' : s'.dispatches = s₁.dispatches := congrArg FlightView.dispatches hl
  refine hw.proceeds hj hr hb (fun d hm => .inr (hd (hd' ▸ hm))) fun _ => ?_
  exact (congrArg FlightView.venueCalls hl).trans hv

end

lemma Move.proceeds (hA : ¬ A.recover) (h : Coherent S s) (hv : Move S A s s') : Proceeds s s' := by
  have hj : s.journal.records.Sublist s'.journal.records := by
    rcases hv.journaled with ⟨_, hj⟩ | ⟨ha, -⟩
    · exact hj.sublist
    · exact absurd ha hA
  cases hv with
  | opened hf _ hc => exact hc.proceeds rfl rfl (Subset.refl _) rfl (by simp [hf])
  | @dispatched _ d _ hf _ hw ha _ hl =>
    have hd : s'.dispatches = d :: s.dispatches := congrArg FlightView.dispatches hl
    refine hw.proceeds rfl rfl (by simp [hf]) (fun d' hm => ?_) fun hp => ?_
    · exact (List.mem_cons.mp (hd ▸ hm)).imp_left (congrArg Dispatch.requestKey)
    · -- a poisoned writer takes no record of the attempt
      simp [(hw.poisoned hp).1, Stage.advance] at ha
  | @returned _ d hd hc =>
    refine hc.proceeds rfl rfl (erase_subset ..) rfl fun known hk => ⟨?_, fun hs => hs.2 d hd rfl⟩
    rw [Option.some.inj (hk.symm.trans (h.pending d hd).1)]
  | @resolved _ key record hk hn hc =>
    refine (hc (.unresolved record.operation) (by simp [Stage.resolvable])).proceeds rfl rfl
      (Subset.refl _) rfl fun known hk' => ?_
    obtain rfl := Option.some.inj (hk'.symm.trans hk)
    exact ⟨rfl, fun hs => hn hs.1⟩
  | refused hr => exact .of_eq hj (fun hp => (hr.poisoned hp).symm ▸ hp) rfl rfl rfl
  | fenced _ _ _ _ _ hr _ hl _ _ hp =>
    exact .of_eq hj hp hr (congrArg FlightView.dispatches hl) (congrArg FlightView.venueCalls hl)
  | ended hn => exact .of_eq hj (by simp [hn.sound]) rfl rfl rfl
  | lifted _ hn =>
    refine ⟨hj, by simp [hn.sound], fun key record hk => ⟨resolveProjection record, ?_,
      identity_resolveProjection record, fun hs => ?_⟩⟩
    · exact (UMap.lookup_mapValues resolveProjection s.requests key).trans (by rw [hk]; rfl)
    · exact ⟨⟨inert_resolveProjection hs.1, hs.2⟩, .inr rfl⟩
  | flushed _ _ _ hp => exact .of_eq hj hp rfl rfl rfl
  | recovered _ _ _ _ _ _ _ _ ha | unrecovered _ _ _ _ _ _ _ _ ha => exact absurd ha hA
  | _ => exact .of_eq hj id rfl rfl rfl

/-! ### Runs -/

/-- Runs of one process. -/
def ongoing : Allowance := { unrestricted with recover := False }

lemma System.proceeds_run (front : List Action) {back : List Action}
    (hb : ∀ a ∈ back, a.isRecovery = false) : Proceeds (run S front) (run S (front ++ back)) := by
  have hr (s : System) : Proceeds s s := .of_eq (Sublist.refl _) id rfl rfl rfl
  refine run_related (A := ongoing) hr Proceeds.trans (Move.proceeds id) trivial front
    ((meets_trivial _ back).imp fun _ a hm _ => ?_)
  exact ⟨.inl trivial, .inl trivial, .inl trivial, .inl trivial, .inr (hb a hm), .inl trivial,
    fun _ _ => trivial, fun _ _ => trivial⟩

/-- Synced records outlive every failure and every crash, and as long as the process runs no
accepted record is dropped or moved. -/
theorem journal_only_grows (S : Service) (front back : List Action) :
    (run S front).journal.synced <+: (run S (front ++ back)).journal.synced ∧
    ((∀ a ∈ back, a.isRecovery = false) →
      (run S front).journal.records.Sublist (run S (front ++ back)).journal.records) := by
  refine ⟨?_, fun hb => (proceeds_run front hb).records⟩
  exact run_related (R := fun s s' => s.journal.synced <+: s'.journal.synced)
    (fun _ => prefix_refl _) IsPrefix.trans (fun _ => Move.synced) trivial front
    (meets_unrestricted S _ back)

/-- A command stays under its key with its identity, and once it is settled only the end of a
projection block changes its record. -/
theorem settled_commands_stay (S : Service) (front back : List Action) :
    (∀ key record, (run S front).requests.lookup key = some record →
      record.context.requestKey = key) ∧
    ((∀ a ∈ back, a.isRecovery = false) → ∀ key record,
      (run S front).requests.lookup key = some record → ∃ record',
        (run S (front ++ back)).requests.lookup key = some record' ∧
        record'.identity = record.identity ∧ ((run S front).Settled key record →
          record' = record ∨ record' = resolveProjection record)) := by
  refine ⟨fun _ _ hk => ((coherent_run front).keyed _ _ hk).1, fun hb key record hk => ?_⟩
  obtain ⟨record', hk', hi, hs⟩ := (proceeds_run front hb).commands key record hk
  exact ⟨record', hk', hi, fun hr => (hs hr).2⟩

/-- After a failed write nothing goes to the venue until the journal is recovered. -/
theorem poisoned_writer_halts (S : Service) (front back : List Action)
    (hb : ∀ a ∈ back, a.isRecovery = false) (hp : (run S front).journal.writePoisoned = true) :
    (run S (front ++ back)).journal.writePoisoned = true ∧
      (run S (front ++ back)).venueCalls = (run S front).venueCalls :=
  (proceeds_run front hb).halted hp

/-- A placement whose record is torn, and the next one. -/
theorem poisoned_writer_halts_torn :
    let torn : Action :=
      .placeOrder (samplePlacement "1") none {} { file := fun _ => { write := .torn } }
    (run sampleService [torn]).journal.writePoisoned = true ∧
      (run sampleService [torn, .placeOrder (samplePlacement "2") none {} {}]).venueCalls = [] := by
  intro torn
  have hp : (run sampleService [torn]).journal.writePoisoned = true := by decide +kernel
  have hv := (poisoned_writer_halts sampleService [torn]
    [.placeOrder (samplePlacement "2") none {} {}] (by simp [Action.isRecovery]) hp).2
  exact ⟨hp, hv.trans (by decide +kernel)⟩

/-- The calls at the venue are counted, and each one has a command of its own, in doubt. -/
theorem calls_in_flight_counted (S : Service) (actions : List Action) :
    let s := run S actions
    s.venueDispatchesInFlight = (s.dispatches.map Dispatch.requestKey).toFinset.card ∧
      ∀ d ∈ s.dispatches, s.requests.lookup d.requestKey = some d.pending ∧
        d.pending.status = .uncertain ∧ d.pending.context.requestKey = d.requestKey := by
  have hc := coherent_run (S := S) actions
  refine ⟨?_, fun d hd => ?_⟩
  · rw [List.toFinset_card_of_nodup hc.distinct, length_map, hc.inFlight]
  · have hk := (hc.pending d hd).1
    exact ⟨hk, by cases d <;> rfl, (hc.keyed _ _ hk).1⟩

end Hepta
