import Hepta.Checkpoint.Hot
import Hepta.Checkpoint.Generation

/-!
# Reading the indexes

The rows of both indexes are sorted, so the searches of the store find exactly the rows that they
look for, whatever the lengths of the lines.
-/

namespace Hepta

open List

namespace Checkpoint

/-! ### The order of the rows -/

lemma hexDigit_injOn : ∀ m < 16, ∀ n < 16, hexDigit m = hexDigit n → m = n := by decide

lemma hexPair_injective {a b : UInt8}
    (h : [hexDigit (a.toNat / 16), hexDigit (a.toNat % 16)] =
      [hexDigit (b.toNat / 16), hexDigit (b.toNat % 16)]) : a = b := by
  have ha := a.toNat_lt
  have hb := b.toNat_lt
  simp only [List.cons.injEq, and_true] at h
  have hh := hexDigit_injOn _ (by omega) _ (by omega) h.1
  have hl := hexDigit_injOn _ (by omega) _ (by omega) h.2
  apply UInt8.toNat_inj.mp
  omega

theorem hex_injective : Function.Injective hex := by
  have hb : ∀ a b : List UInt8,
      (a.flatMap fun byte => [hexDigit (byte.toNat / 16), hexDigit (byte.toNat % 16)]) =
        (b.flatMap fun byte => [hexDigit (byte.toNat / 16), hexDigit (byte.toNat % 16)]) →
      a = b := by
    intro a
    induction a with
    | nil =>
      intro b h
      cases b <;> simp_all
    | cons x a ih =>
      intro b h
      cases b with
      | nil => simp at h
      | cons y b =>
        rw [flatMap_cons, flatMap_cons] at h
        obtain ⟨hp, hr⟩ := append_inj h rfl
        rw [hexPair_injective hp, ih b hr]
  intro s t h
  have hd := Array.toList_inj.mp (hb _ _ h)
  exact String.toByteArray_inj.mp (ByteArray.ext hd)

lemma sortKey_injective : Function.Injective CommandKey.sortKey := by
  rintro ⟨a, s, c⟩ ⟨a', s', c'⟩ h
  simp only [CommandKey.sortKey, toLex_inj, Prod.mk.injEq] at h
  rw [hex_injective h.1, hex_injective h.2.1, hex_injective h.2.2]

end Checkpoint

open Checkpoint

namespace Generation

/-! ### Send attempts -/

variable {account executionDomain : String} {cutoffMs : Int} {a b : SendRow} {rows : List SendRow}
  {commands : Dict CommandKey CommandRow}

lemma sortKey_le (h : a.sortKey ≤ b.sortKey) : hex a.account < hex b.account ∨
    hex a.account = hex b.account ∧ (hex a.executionDomain < hex b.executionDomain ∨
      hex a.executionDomain = hex b.executionDomain ∧ a.tsMs ≤ b.tsMs) := by
  simp only [SendRow.sortKey, Prod.Lex.toLex_le_toLex] at h
  rcases h with h | ⟨h, h' | ⟨h', h'' | ⟨h'', -⟩⟩⟩
  · exact .inl h
  · exact .inr ⟨h, .inl h'⟩
  · exact .inr ⟨h, .inr ⟨h', h''.le⟩⟩
  · exact .inr ⟨h, .inr ⟨h', h''.le⟩⟩

lemma beforeWindow_iff : beforeWindow account executionDomain cutoffMs a = true ↔
    hex a.account < hex account ∨ hex a.account = hex account ∧
      (hex a.executionDomain < hex executionDomain ∨
        hex a.executionDomain = hex executionDomain ∧ a.tsMs ≤ cutoffMs) := by
  simp only [beforeWindow, Bool.or_eq_true, Bool.and_eq_true, decide_eq_true_eq]
  tauto

lemma beforeWindow_of_le (h : a.sortKey ≤ b.sortKey)
    (hb : beforeWindow account executionDomain cutoffMs b = true) :
    beforeWindow account executionDomain cutoffMs a = true := by
  rw [beforeWindow_iff] at hb ⊢
  rcases sortKey_le h with h | ⟨h, h' | ⟨h', h''⟩⟩
  · exact .inl (hb.elim h.trans fun hb => hb.1 ▸ h)
  · rw [h]
    refine hb.imp_right fun ⟨ha, hd⟩ => ⟨ha, .inl ?_⟩
    exact hd.elim h'.trans fun hd => hd.1 ▸ h'
  · rw [h, h']
    exact hb.imp_right fun ⟨ha, hd⟩ => ⟨ha, hd.imp_right fun hd => ⟨hd.1, h''.trans hd.2⟩⟩

def inWindow (account executionDomain : String) (cutoffMs : Int) (row : SendRow) : Prop :=
  row.account = account ∧ row.executionDomain = executionDomain ∧ cutoffMs < row.tsMs

lemma not_inWindow_of_beforeWindow (h : beforeWindow account executionDomain cutoffMs a = true) :
    ¬ inWindow account executionDomain cutoffMs a := by
  rintro ⟨rfl, rfl, ht⟩
  rw [beforeWindow_iff] at h
  simp at h
  omega

lemma not_inWindow_of_behind (h : a.sortKey ≤ b.sortKey)
    (ha : beforeWindow account executionDomain cutoffMs a = false)
    (hs : hex a.account ≠ hex account ∨ hex a.executionDomain ≠ hex executionDomain) :
    ¬ inWindow account executionDomain cutoffMs b := by
  rintro ⟨rfl, rfl, -⟩
  rw [Bool.eq_false_iff, ne_eq, beforeWindow_iff, not_or, not_and_or, not_or] at ha
  rcases sortKey_le h with h | ⟨h, h' | ⟨h', -⟩⟩
  · exact ha.1 h
  · exact ha.2.elim (fun he => he h) fun he => he.1 h'
  · exact hs.elim (fun he => he h) fun he => he h'

lemma readWindow_of_sorted (hs : rows.Pairwise fun a b => a.sortKey ≤ b.sortKey)
    (hr : ∀ row ∈ rows, beforeWindow account executionDomain cutoffMs row = false)
    {wanted : SendRow → Bool}
    (hw : ∀ row, wanted row = true → inWindow account executionDomain cutoffMs row) :
    ∃ read, readWindow account executionDomain cutoffMs rows = .ok read ∧
      read.filter wanted = rows.filter wanted := by
  induction rows with
  | nil => exact ⟨[], rfl, rfl⟩
  | cons row rows ih =>
    obtain ⟨hfs, hrs⟩ := List.pairwise_cons.mp hs
    unfold readWindow
    by_cases hc : hex row.account ≠ hex account ∨ hex row.executionDomain ≠ hex executionDomain
    · refine ⟨[], by rw [if_pos hc], ?_⟩
      symm
      rw [filter_nil, filter_eq_nil_iff]
      intro b hb hwn
      refine not_inWindow_of_behind ?_ (hr row mem_cons_self) hc (hw b hwn)
      rcases List.mem_cons.mp hb with rfl | hb
      · exact le_refl _
      · exact hfs b hb
    · obtain ⟨read, hd, hf⟩ := ih hrs fun b hb => hr b (mem_cons_of_mem _ hb)
      have hbf := hr row mem_cons_self
      rw [Bool.eq_false_iff, ne_eq, beforeWindow_iff] at hbf
      rw [not_or, not_not, not_not] at hc
      have ht : ¬ row.tsMs ≤ cutoffMs := fun ht => hbf (.inr ⟨hc.1, .inr ⟨hc.2, ht⟩⟩)
      refine ⟨row :: read, ?_, ?_⟩
      · rw [if_neg (by simp [hc]), if_neg ht, hd]
        rfl
      · rw [filter_cons, filter_cons, hf]

/-- `ReadPlaceSendAttemptTimes` finds the rows of the scope behind the cutoff. -/
theorem readPlaceSendAttemptTimes_perm (g : Generation) (pick : ℕ → ℕ → ℕ)
    (hs : g.sendIndex.Pairwise fun a b => a.sortKey ≤ b.sortKey)
    (account executionDomain : String) (cutoffMs : Int) (excluded : Finset String) :
    ∃ rows, g.readPlaceSendAttemptTimes pick account executionDomain cutoffMs excluded = .ok rows ∧
      rows.Perm (g.sendIndex.filter fun row =>
        row.account = account ∧ row.executionDomain = executionDomain ∧ cutoffMs < row.tsMs ∧
          requestKey row.key.agentId row.key.sessionId row.key.commandId ∉ excluded) := by
  have hw : ∀ row : SendRow, decide (row.account = account ∧
      row.executionDomain = executionDomain ∧ cutoffMs < row.tsMs ∧
        requestKey row.key.agentId row.key.sessionId row.key.commandId ∉ excluded) = true →
      inWindow account executionDomain cutoffMs row := by
    intro row hr
    rw [decide_eq_true_eq] at hr
    exact ⟨hr.1, hr.2.1, hr.2.2.1⟩
  unfold readPlaceSendAttemptTimes
  cases g.sendIndexWindowSorted with
  | false => exact ⟨_, rfl, perm_insertionSort _ _⟩
  | true =>
    set before := beforeWindow account executionDomain cutoffMs
    have hm : Search.Monotone before g.sendIndex := hs.imp beforeWindow_of_le
    obtain ⟨_, hd, hf⟩ := readWindow_of_sorted
      (hs.sublist (dropWhile_sublist before)) (fun _ => hm.of_mem_dropWhile) hw
    refine ⟨_, ?_, perm_insertionSort (fun a b => a.sequence ≤ b.sequence) _⟩
    rw [if_pos rfl, Search.drop_lowerBound pick hm, hd]
    simp only [bind, Except.bind, pure, Except.pure]
    rw [hf, Search.filter_dropWhile]
    intro row hr
    rw [Bool.eq_false_iff]
    exact fun hb => not_inWindow_of_beforeWindow hb (hw row hr)

/-! ### Commands -/

def Keyed (commands : Dict CommandKey CommandRow) : Prop :=
  ∀ key row, commands.lookup key = some row → row.key = key

lemma commandRows_sorted (h : Keyed commands) :
    (commandRows commands).Pairwise fun a b => a.key.sortKey < b.key.sortKey := by
  have hl : (commandRows commands).Pairwise fun a b => a.key.sortKey ≤ b.key.sortKey :=
    pairwise_insertionSort (fun a b : CommandRow => a.key.sortKey ≤ b.key.sortKey) _
  have hd : (commands.values.map CommandRow.key).Nodup := Dict.nodup_map_values h
  have hne : (commandRows commands).Pairwise fun a b => a.key ≠ b.key := by
    have hp := perm_insertionSort
      (fun a b : CommandRow => a.key.sortKey ≤ b.key.sortKey) commands.values
    exact List.pairwise_map.mp ((hp.map CommandRow.key).nodup_iff.mpr hd)
  refine (hl.and hne).imp fun {a b} ha => lt_of_le_of_ne ha.1 fun heq => ?_
  exact ha.2 (sortKey_injective heq)

lemma mem_commandRows {row : CommandRow} :
    row ∈ commandRows commands ↔ ∃ key, commands.lookup key = some row := by
  rw [commandRows, mem_insertionSort, Dict.mem_values]

theorem lookupCommand_eq (g : Generation) (pick : ℕ → ℕ → ℕ)
    (hi : g.commandIndex = commandRows commands) (h : Keyed commands) (key : CommandKey) :
    g.lookupCommand pick key = match commands.lookup key with
      | none => .missing
      | some row => if row.operation ≠ .unset ∧ row.status ≠ .unknown then .found row else .error := by
  have hs : Search.Ascending (fun row : CommandRow => cmp row.key.sortKey key.sortKey)
      g.commandIndex := by
    rw [hi]
    refine (commandRows_sorted h).imp fun {a b} hab => ⟨fun hb => ?_, fun ha => ?_⟩
    · exact (cmp_eq_lt_iff _ _).mpr
        (hab.trans_le (not_lt.mp fun ht => hb ((cmp_eq_gt_iff _ _).mpr ht)))
    · exact (cmp_eq_gt_iff _ _).mpr
        ((not_lt.mp fun ht => ha ((cmp_eq_lt_iff _ _).mpr ht)).trans_lt hab)
  have hf := Search.find_eq_some_iff pick hs
  unfold lookupCommand
  generalize Search.find pick (fun row : CommandRow => cmp row.key.sortKey key.sortKey)
    g.commandIndex g.commandIndex.length 0 g.commandIndex.length = found at hf
  have hr : ∀ row, found = some row ↔ commands.lookup key = some row := by
    intro row
    rw [hf, hi, mem_commandRows, cmp_eq_eq_iff]
    constructor
    · rintro ⟨⟨key', hl⟩, heq⟩
      obtain rfl := h key' row hl
      rwa [← sortKey_injective heq]
    · intro hl
      exact ⟨⟨key, hl⟩, by rw [h key row hl]⟩
  cases hl : commands.lookup key with
  | none =>
    cases found with
    | none => rfl
    | some => simp [hl] at hr
  | some row =>
    rw [(hr row).mpr hl]
    simp [h key row hl]

end Generation

lemma Checkpoint.keyed_commands {es : List OmsJournalEvent} {p : Projection}
    (h : project es = .ok p) : Generation.Keyed p.commands := by
  intro key row hr
  rw [lookup_commands h] at hr
  refine foldlRecOn es.zipIdx (rowStep key) (b := none) (motive := fun folded =>
    ∀ row ∈ folded, row.key = key) (by simp) ?_ row hr
  intro folded ih entry _ row hm
  unfold rowStep at hm
  split_ifs at hm
  · obtain rfl := Option.some.inj hm
    cases folded with
    | none => rfl
    | some known => exact ih known rfl
  · exact ih row hm

namespace Checkpoint

lemma decodeRequestKey_requestKey {key : CommandKey} (hc : key.complete)
    (hs : ∀ part ∈ [key.agentId, key.sessionId, key.commandId], '\x1f' ∉ part.toList) :
    Generation.decodeRequestKey (requestKey key.agentId key.sessionId key.commandId) =
      some key := by
  have hk : (['\x1f'].intercalate [key.agentId.toList, key.sessionId.toList,
      key.commandId.toList]).splitOn '\x1f' = _ :=
    splitOn_intercalate '\x1f' (by simpa using hs) (by simp)
  have ht : (requestKey key.agentId key.sessionId key.commandId).toList = ['\x1f'].intercalate
      [key.agentId.toList, key.sessionId.toList, key.commandId.toList] := by
    simp [requestKey, intercalate, intersperse]
  rw [Generation.decodeRequestKey, ht, hk]
  simpa [CommandKey.complete] using hc

/-- A sealed log answers for each of its commands with the row folded from the whole log. -/
theorem loadHistorical_generation {es : List OmsJournalEvent} {p : Projection}
    (h : project es = .ok p) (key : CommandKey) (hc : key.complete)
    (hs : ∀ part ∈ [key.agentId, key.sessionId, key.commandId], '\x1f' ∉ part.toList)
    (pick : ℕ → ℕ → ℕ) :
    (generation es p).loadHistorical pick (requestKey key.agentId key.sessionId key.commandId) =
      (rowOf key es).map fun row =>
        if row.operation ≠ .unset ∧ row.status ≠ .unknown then Generation.historicalRecord row
        else Generation.unreadableRecord key := by
  rw [Generation.loadHistorical, decodeRequestKey_requestKey hc hs, Option.bind_some,
    Generation.lookupCommand_eq _ pick rfl (keyed_commands h), lookup_commands h]
  cases rowOf key es with
  | none => rfl
  | some row =>
    dsimp only [Option.map_some]
    split_ifs <;> rfl

def openPlacement : List OmsJournalEvent :=
  sampleRecords [.act (.placeOrder (samplePlacement "open") none {} {})]

set_option maxRecDepth 10000 in
theorem loadHistorical_openPlacement : ∃ p, project openPlacement = .ok p ∧ ∀ pick,
    ((generation openPlacement p).loadHistorical pick (requestKey "agent" "session" "open")).any
      (·.status = .uncertain) = true := by
  have hs : (project openPlacement).toOption.any (fun _ => true) = true := by decide
  obtain ⟨p, hp, -⟩ := exists_project hs
  refine ⟨p, hp, fun pick => ?_⟩
  rw [loadHistorical_generation hp ⟨"agent", "session", "open"⟩ (by decide) (by decide)]
  decide

end Checkpoint

end Hepta
