import Hepta.Library.Guarded
import Hepta.ToolHost.Calls

/-!
# Tombstones of finalized owners

The tombstone of an owner is one disabled session, and the fence of the owner is one entry of a set
that is shared by all the sessions of the owner. What a call can do to either is said once, for the
updates that the calls are made of.
-/

namespace Hepta

namespace TradingToolHost

variable {h h' h'' : TradingToolHost} {t k token : Bytes} {b : TradingToolHostSessionBinding}
  {r : SessionSupervisorLeaseRecord} {call : Call}

def owns (h : TradingToolHost) (k token : Bytes) : Bool :=
  (h.sessions.lookup token).any fun b => b.sessionOwnerKey = k

lemma owns_of_lookup (hb : h.sessions.lookup token = some b) :
    h.owns k token = decide (b.sessionOwnerKey = k) := by
  simp [owns, hb]

structure Tombstone (t k : Bytes) (h : TradingToolHost) : Prop where
  fenced : k ∈ h.pendingOwnerFences
  registered : ∃ b, h.sessions.lookup t = some b ∧ b.enabled = false ∧ b.environment = .paper ∧
    b.sessionOwnerKey = k

/-- A session of the owner after the change is one from before it: the same registration of the token,
with the same generation. -/
def NoneRegistered (k : Bytes) (h h' : TradingToolHost) : Prop :=
  ∀ token b', h'.sessions.lookup token = some b' → b'.sessionOwnerKey = k →
    ∃ b, h.sessions.lookup token = some b ∧ b.sessionOwnerKey = k ∧
      b.leaseGeneration = b'.leaseGeneration ∧
      h'.sessionIncarnations.lookup token = h.sessionIncarnations.lookup token

lemma NoneRegistered.trans (first : NoneRegistered k h h')
    (second : NoneRegistered k h' h'') : NoneRegistered k h h'' := by
  intro token b'' hb'' hk
  obtain ⟨b', hb', hk', hg', hi'⟩ := second token b'' hb'' hk
  obtain ⟨b, hb, hk, hg, hi⟩ := first token b' hb' hk'
  exact ⟨b, hb, hk, hg.trans hg', hi'.trans hi⟩

/-- The tombstone is there after the change, and the owner has no new session. -/
structure Keeps (t k : Bytes) (h h' : TradingToolHost) : Prop where
  tombstone : Tombstone t k h'
  noneRegistered : NoneRegistered k h h'

namespace Tombstone

/-! ### The updates -/

variable (hold : Tombstone t k h)

include hold

lemma of_eq (hs : h'.sessions = h.sessions) (hi : h'.sessionIncarnations = h.sessionIncarnations)
    (hf : h'.pendingOwnerFences = h.pendingOwnerFences) : Keeps t k h h' := by
  refine ⟨⟨hf ▸ hold.fenced, hs ▸ hold.registered⟩, ?_⟩
  intro token b hb hk
  exact ⟨b, hs ▸ hb, hk, rfl, by rw [hi]⟩

lemma refl : Keeps t k h h := hold.of_eq rfl rfl rfl

lemma fenceOwner (key : Bytes) : Keeps t k h (h.fenceOwner key) := by
  refine ⟨⟨Finset.mem_insert_of_mem hold.fenced, hold.registered⟩, ?_⟩
  intro token b hb hk
  exact ⟨b, hb, hk, rfl, rfl⟩

lemma releaseOwner {key : Bytes} (hy : key ≠ k) : Keeps t k h (h.releaseOwner key) := by
  refine ⟨⟨Finset.mem_erase.mpr ⟨hy.symm, hold.fenced⟩, hold.registered⟩, ?_⟩
  intro token b hb hk
  exact ⟨b, hb, hk, rfl, rfl⟩

lemma eraseSession (ht : token ≠ t) : Keeps t k h (h.eraseSession token) := by
  constructor
  · refine ⟨hold.fenced, ?_⟩
    obtain ⟨b, hb, hr⟩ := hold.registered
    exact ⟨b, (AList.lookup_erase_ne ht.symm).trans hb, hr⟩
  · intro token' b hb hk
    have he : token' ≠ token := by
      rintro rfl
      simp [TradingToolHost.eraseSession, AList.lookup_erase] at hb
    exact ⟨b, (AList.lookup_erase_ne he).symm.trans hb, hk, rfl, AList.lookup_erase_ne he⟩

lemma putSession (ht : b.token ≠ t) (hy : b.sessionOwnerKey ≠ k) :
    Keeps t k h (h.putSession b) := by
  constructor
  · refine ⟨hold.fenced, ?_⟩
    obtain ⟨b', hb', hr⟩ := hold.registered
    exact ⟨b', (AList.lookup_insert_ne ht.symm).trans hb', hr⟩
  · intro token' b' hb' hk
    have he : token' ≠ b.token := by
      rintro rfl
      simp only [TradingToolHost.putSession, AList.lookup_insert, Option.some.injEq] at hb'
      exact hy (hb' ▸ hk)
    exact ⟨b', (AList.lookup_insert_ne he).symm.trans hb', hk, rfl, AList.lookup_insert_ne he⟩

lemma amendSession (hb : h.sessions.lookup token = some b)
    {en : Bool} (ho : b.enabled = false → en = false) (recoveryOnly : Bool)
    (expiresAtMs : ℕ) : Keeps t k h (h.amendSession token en recoveryOnly expiresAtMs) := by
  have hs : (h.amendSession token en recoveryOnly expiresAtMs).sessions =
      h.sessions.insert token { b with enabled := en, recoveryOnly, expiresAtMs } := by
    simp [TradingToolHost.amendSession, hb]
  constructor
  · refine ⟨hold.fenced, ?_⟩
    obtain ⟨d, hd, hds, hp, hdk⟩ := hold.registered
    rw [hs]
    by_cases ht : t = token
    · subst ht
      obtain rfl : b = d := Option.some.inj (hb.symm.trans hd)
      exact ⟨_, AList.lookup_insert _, ho hds, hp, hdk⟩
    · exact ⟨d, (AList.lookup_insert_ne ht).trans hd, hds, hp, hdk⟩
  · intro token' d hd hk
    rw [hs] at hd
    by_cases ht : token' = token
    · subst ht
      obtain rfl := Option.some.inj ((AList.lookup_insert _).symm.trans hd)
      exact ⟨b, hb, hk, rfl, rfl⟩
    · exact ⟨d, (AList.lookup_insert_ne ht).symm.trans hd, hk, rfl, rfl⟩

lemma disableSession (hb : h.sessions.lookup token = some b) :
    Keeps t k h (h.disableSession token b) :=
  hold.amendSession hb (fun _ => rfl) _ _

end Tombstone

lemma Keeps.trans (first : Keeps t k h h') (second : Keeps t k h' h'') : Keeps t k h h'' :=
  ⟨second.tombstone, first.noneRegistered.trans second.noneRegistered⟩

namespace Tombstone

variable (hold : Tombstone t k h)

include hold

lemma ne_of_enabled (hb : h.sessions.lookup token = some b)
    (hon : b.enabled = true) : token ≠ t := by
  rintro rfl
  obtain ⟨d, hd, ho, -⟩ := hold.registered
  rw [Option.some.inj (hb.symm.trans hd), ho] at hon
  exact Bool.false_ne_true hon

lemma ne_of_unregistered (hb : (h.sessions.lookup token).isSome = false) : token ≠ t := by
  rintro rfl
  obtain ⟨d, hd, -⟩ := hold.registered
  simp [hd] at hb

lemma ne_of_other (hb : h.sessions.lookup token = some b)
    (hy : b.sessionOwnerKey ≠ k) : token ≠ t := by
  rintro rfl
  obtain ⟨d, hd, -, -, hk⟩ := hold.registered
  exact hy (Option.some.inj (hb.symm.trans hd) ▸ hk)

lemma ne_of_unfenced {key : Bytes} (hk : key ∉ h.pendingOwnerFences) :
    key ≠ k := fun heq => hk (heq ▸ hold.fenced)

/-! ### The calls -/

lemma registerSession (env : RegisterEnv) (b : TradingToolHostSessionBinding)
    (watchTransactionId : Option ℕ) :
    Keeps t k h (h.registerSession env b watchTransactionId).2 := by
  simp only [TradingToolHost.registerSession]
  split
  · exact hold.refl
  · exact hold.refl
  · split
    · exact hold.refl
    split
    · exact hold.refl
    split
    · exact hold.refl
    split
    · exact hold.refl
    rename_i hf
    split
    · exact hold.refl
    rename_i hr
    split
    · exact hold.refl
    · exact hold.putSession (hold.ne_of_unregistered (Bool.eq_false_iff.mpr hr))
        (hold.ne_of_unfenced hf)

lemma rotate (u : LeaseUpdate)
    (hb : h.sessions.lookup u.currentToken = some b) (hk : b.sessionOwnerKey ≠ k)
    (hf : u.replacementToken ≠ u.currentToken →
      (h.sessions.lookup u.replacementToken).isSome = false) :
    Keeps t k h (h.rotate u b) := by
  have hc : u.currentToken ≠ t := hold.ne_of_other hb hk
  have he := hold.eraseSession hc
  refine he.trans (he.tombstone.putSession ?_ hk)
  by_cases hs : u.replacementToken = u.currentToken
  · exact hs ▸ hc
  · exact hold.ne_of_unregistered (hf hs)

lemma updateSessionLease (env : RegisterEnv) (u : LeaseUpdate) :
    Keeps t k h (h.updateSessionLease env u).2 := by
  simp only [TradingToolHost.updateSessionLease]
  split
  · exact hold.refl
  split
  · exact hold.refl
  rename_i current hc
  split
  · have ho := hold.disableSession hc
    exact ho.trans (ho.tombstone.fenceOwner _)
  split
  · exact hold.refl
  split
  · exact hold.refl
  rename_i hf
  split
  · exact hold.refl
  split
  · exact hold.refl
  rename_i hr
  split
  · exact hold.refl
  apply hold.rotate u hc
  · exact hold.ne_of_unfenced fun hm => hf (.inr hm)
  · intro he
    exact Bool.eq_false_iff.mpr fun hs => hr ⟨he, hs⟩

lemma updatePaperSessionLeaseAfterAudit (env : RecoveryEnv) (register : RegisterEnv)
    (u : LeaseUpdate) : Keeps t k h (h.updatePaperSessionLeaseAfterAudit env register u).2 := by
  simp only [TradingToolHost.updatePaperSessionLeaseAfterAudit]
  split
  · exact hold.refl
  split
  · exact hold.refl
  split
  · exact hold.refl
  split
  · exact hold.refl
  split
  · exact hold.refl
  · exact hold.refl
  · exact hold.updateSessionLease register _

lemma revokeSession (hh : h.owns k token = false) (expected : RevokeExpectation)
    (watchTransactionId : Option ℕ)
    (observer) : Keeps t k h (h.revokeSession token expected watchTransactionId observer).2 := by
  simp only [TradingToolHost.revokeSession]
  split
  · exact hold.refl
  rename_i session hs
  have hk : session.sessionOwnerKey ≠ k := by
    simpa [owns_of_lookup hs] using hh
  split
  · exact hold.refl
  split
  · exact hold.refl
  split
  · have ho := hold.disableSession hs
    exact ho.trans (ho.tombstone.fenceOwner _)
  · have he := hold.eraseSession (hold.ne_of_other hs hk)
    exact he.trans (he.tombstone.releaseOwner hk)

lemma revokeSessionWithReason (ho : h.owns k token = false) (observer) :
    Keeps t k h (h.revokeSessionWithReason token observer).2 := by
  simp only [TradingToolHost.revokeSessionWithReason]
  split
  · exact hold.refl
  · exact hold.revokeSession ho _ _ _

end Tombstone

lemma NoneRegistered.owns_eq_false (hnn : NoneRegistered k h h') (hh : h.owns k token = false) :
    h'.owns k token = false := by
  rw [Bool.eq_false_iff]
  intro ho
  obtain ⟨b', hb', hk⟩ := (Option.any_eq_true _ _).mp ho
  obtain ⟨b, hb, hkb, -⟩ := hnn token b' hb' (of_decide_eq_true hk)
  simp [owns_of_lookup hb, hkb] at hh

namespace Tombstone

variable (hold : Tombstone t k h)

include hold

lemma reapTokens (tokens : List Bytes) (ho : ∀ token ∈ tokens, h.owns k token = false) (observer) :
    Keeps t k h (tokens.foldl (fun h token => (h.revokeSessionWithReason token observer).2) h) := by
  induction tokens generalizing h with
  | nil => exact hold.refl
  | cons token tokens ih =>
    have hf := hold.revokeSessionWithReason (ho token (by simp)) observer
    apply hf.trans
    apply ih hf.tombstone
    intro token' hm
    exact hf.noneRegistered.owns_eq_false (ho token' (by simp [hm]))

lemma revokeTargets (targets : List (Bytes × ℕ))
    (ho : ∀ target ∈ targets, h.owns k target.1 = false) (id : ℕ) (observer) :
    Keeps t k h (TradingToolHost.revokeTargets id observer h targets).2 := by
  induction targets generalizing h with
  | nil => exact hold.refl
  | cons target targets ih =>
    have hf := hold.revokeSession (ho target (by simp)) (.generation target.2) (some id) observer
    simp only [TradingToolHost.revokeTargets]
    split
    · rename_i heq
      simpa [heq] using hf
    rename_i next heq
    rw [heq] at hf
    apply hf.trans
    apply ih hf.tombstone
    intro target' hm
    exact hf.noneRegistered.owns_eq_false (ho target' (by simp [hm]))

lemma fenceRestoredSession (hk : b.sessionOwnerKey ≠ k) (observer) :
    Keeps t k h (h.fenceRestoredSession b observer).2 := by
  simp only [TradingToolHost.fenceRestoredSession]
  split
  · exact hold.refl
  · split
    · exact hold.fenceOwner _
    · exact hold.releaseOwner hk

variable (env : RecoveryEnv) (token : Bytes) (gen : ℕ)

lemma enterRecoveryOnly (targetCommandId : Bytes) (ownerAudit : Bool)
    (r : SessionSupervisorLeaseRecord) (exp : ℕ) :
    Keeps t k h (h.enterRecoveryOnly env token gen targetCommandId ownerAudit r exp).2 := by
  simp only [TradingToolHost.enterRecoveryOnly]
  split
  · exact hold.refl
  split
  · exact hold.refl
  rename_i session hs
  split
  · exact hold.refl
  split
  · exact hold.refl
  split
  · exact hold.refl
  · split
    · exact hold.refl
    · exact hold.amendSession hs id _ _

lemma finalizeRecoveryOnlyOwner (r : SessionSupervisorLeaseRecord) :
    Keeps t k h (h.finalizeRecoveryOnlyOwner env token gen r).2 := by
  simp only [TradingToolHost.finalizeRecoveryOnlyOwner]
  split
  · exact hold.refl
  rename_i session hs
  split
  · exact hold.refl
  split
  · exact hold.refl
  split
  · exact hold.refl
  rename_i hb
  have hon : session.enabled = true := by
    by_contra ho
    exact hb (.inl (by simpa using ho))
  split
  · exact hold.refl
  · exact hold.refl
  · exact hold.eraseSession (hold.ne_of_enabled hs hon)

lemma fenceRecoveryOnlyOwner (r : SessionSupervisorLeaseRecord) :
    Keeps t k h (h.fenceRecoveryOnlyOwner env token gen r).2 := by
  simp only [TradingToolHost.fenceRecoveryOnlyOwner]
  split
  · exact hold.refl
  split
  · exact hold.refl
  rename_i session hs
  split
  · exact hold.refl
  split
  · exact hold.refl
  · have ho := hold.amendSession hs (fun _ => rfl) true session.expiresAtMs
    exact ho.trans (ho.tombstone.fenceOwner _)

lemma restorePaperFinalizationTombstone (hk : b.sessionOwnerKey ≠ k)
    (env : RecoveryEnv) (r : SessionSupervisorLeaseRecord) :
    Keeps t k h (h.restorePaperFinalizationTombstone env b r).2 := by
  simp only [TradingToolHost.restorePaperFinalizationTombstone]
  split
  · exact hold.refl
  split
  · exact hold.refl
  split
  · exact hold.refl
  rename_i hf
  split
  · exact hold.refl
  have hp := hold.putSession
    (b := { b with enabled := false, recoveryOnly := true, expiresAtMs := r.expiresAtMs })
    (hold.ne_of_unregistered (Bool.eq_false_iff.mpr hf)) hk
  exact hp.trans (hp.tombstone.fenceOwner _)

lemma purgeFinalizedRecoveryOwner
    (r : SessionSupervisorLeaseRecord) (hy : sessionOwnerKey r.agentId r.sessionId ≠ k) :
    Keeps t k h (h.purgeFinalizedRecoveryOwner env r).2 := by
  simp only [TradingToolHost.purgeFinalizedRecoveryOwner]
  split
  · exact hold.refl
  split
  · exact hold.refl
  rename_i hl
  split
  · exact hold.refl
  have ht : r.token ≠ t := by
    rintro rfl
    obtain ⟨d, hd, -, -, hk⟩ := hold.registered
    have ho : recordOwns d r = true := by
      by_contra hnt
      exact hl (by simp [hd, hnt])
    simp only [recordOwns, Bool.and_eq_true, decide_eq_true_eq] at ho
    apply hy
    rw [← hk, TradingToolHostSessionBinding.sessionOwnerKey, ho.1.1.1, ho.1.1.2]
  have he := hold.eraseSession ht
  exact he.trans (he.tombstone.releaseOwner hy)

/-! ### WATCH transactions -/

omit hold

variable {token} {expected : List TradingToolHostSessionBinding}
  {reservation : WatchTransactionReservation} {tokens : List Bytes} {reason : String}

lemma exists_of_watchMismatch (hnn : watchMismatch expected token b = none) : ∃ e ∈ expected,
    b.sessionOwnerKey = e.sessionOwnerKey ∧ b.environment = e.environment := by
  simp only [watchMismatch] at hnn
  split at hnn
  · rename_i hc
    obtain ⟨e, he, -⟩ := List.any_eq_true.mp hc
    simp only [List.mem_filter, Bool.and_eq_true, decide_eq_true_eq] at he
    obtain ⟨⟨⟨hm, ⟨-, ha⟩, hs⟩, -⟩, hen⟩ := he
    refine ⟨e, hm, ?_, hen⟩
    simp only [TradingToolHostSessionBinding.sessionOwnerKey, ha, hs]
  · split_ifs at hnn

lemma watch_of_valid
    (hv : validWatchBindings expected = true) (hb : b ∈ expected) : b.environment = .watch := by
  cases expected with
  | nil => simp at hb
  | cons =>
    simp only [validWatchBindings, Bool.and_eq_true, List.all_eq_true, decide_eq_true_eq] at hv
    exact (hv.2 b hb).1.2

lemma collectTargets_passed
    {acc targets : List (Bytes × ℕ)}
    (ho : tokens.foldlM (h.collectTarget expected) acc = .ok targets) :
    (∀ token ∈ tokens, ∀ b, h.sessions.lookup token = some b →
      watchMismatch expected token b = none) ∧
    ∀ target ∈ targets, target ∈ acc ∨
      ∃ token ∈ tokens, target.1 = token ∧ (h.sessions.lookup token).isSome := by
  induction tokens generalizing acc with
  | nil =>
    obtain rfl : acc = targets := Except.ok.inj ho
    exact ⟨by simp, fun target hm => .inl hm⟩
  | cons token tokens ih =>
    rw [List.foldlM_cons] at ho
    cases hb : h.sessions.lookup token with
    | none =>
      simp only [collectTarget, hb] at ho
      obtain ⟨hp, hf⟩ := ih ho
      constructor
      · intro token' hm b hb'
        rcases List.mem_cons.mp hm with rfl | hm
        · rw [hb] at hb'
          cases hb'
        · exact hp token' hm b hb'
      · intro target hm
        apply (hf target hm).imp_right
        rintro ⟨token', hm', hr⟩
        exact ⟨token', List.mem_cons_of_mem _ hm', hr⟩
    | some b =>
      cases hc : watchMismatch expected token b with
      | some =>
        simp only [collectTarget, hb, hc] at ho
        cases ho
      | none =>
        simp only [collectTarget, hb, hc] at ho
        obtain ⟨hp, hf⟩ := ih ho
        constructor
        · intro token' hm b' hb'
          rcases List.mem_cons.mp hm with rfl | hm
          · exact Option.some.inj (hb.symm.trans hb') ▸ hc
          · exact hp token' hm b' hb'
        · intro target hm
          rcases hf target hm with ha | ⟨token', hm', hr⟩
          · rcases List.mem_append.mp ha with ha | hw
            · exact .inl ha
            · rw [List.mem_singleton.mp hw]
              exact .inr ⟨token, by simp, h.keyed token b hb, by simp [hb]⟩
          · exact .inr ⟨token', List.mem_cons_of_mem _ hm', hr⟩

lemma lookup_of_collectTargets_error {acc : List (Bytes × ℕ)}
    (he : tokens.foldlM (h.collectTarget expected) acc = .error (token, b, reason)) :
    h.sessions.lookup token = some b := by
  induction tokens generalizing acc with
  | nil => cases he
  | cons token' tokens ih =>
    rw [List.foldlM_cons] at he
    cases hb : h.sessions.lookup token' with
    | none =>
      simp only [collectTarget, hb] at he
      exact ih he
    | some b' =>
      cases hc : watchMismatch expected token' b' with
      | none =>
        simp only [collectTarget, hb, hc] at he
        exact ih he
      | some =>
        simp only [collectTarget, hb, hc] at he
        cases he
        exact hb

lemma lookup_of_unexpected
    (he : h.collectWatchRevokeTargets reservation expected = .error (token, b, reason)) :
    h.sessions.lookup token = some b := by
  simp only [collectWatchRevokeTargets] at he
  split at he
  · rename_i entry hf
    cases he
    exact AList.mem_lookup_iff.mpr (List.mem_of_find?_eq_some hf)
  · exact lookup_of_collectTargets_error he

include hold

lemma collected_not_owned {targets : List (Bytes × ℕ)}
    (hs : sameReservationScope reservation expected = true)
    (hok : h.collectWatchRevokeTargets reservation expected = .ok targets) : ∀ target ∈ targets,
    h.owns k target.1 = false := by
  simp only [sameReservationScope, Bool.and_eq_true] at hs
  obtain ⟨⟨⟨⟨hv, hw⟩, -⟩, -⟩, -⟩ := hs
  simp only [collectWatchRevokeTargets] at hok
  split at hok
  · cases hok
  rename_i hf
  obtain ⟨hp, hfr⟩ := collectTargets_passed hok
  intro target hm
  rw [Bool.eq_false_iff]
  intro ho
  obtain ⟨b, hb, hkb⟩ := (Option.any_eq_true _ _).mp ho
  obtain hc | ⟨token, htoken, ht, -⟩ := hfr target hm
  · simp at hc
  -- the owner is the one of the transaction, so its tombstone had to be expected and to pass
  rw [ht] at hb
  obtain ⟨e, he, hy, -⟩ := exists_of_watchMismatch (hp token htoken b hb)
  have hr : e.sessionOwnerKey = reservation.ownerKey := by
    have ha := List.all_eq_true.mp hw e he
    simp only [Bool.and_eq_true, decide_eq_true_eq] at ha
    exact ha.1
  have hk : k = reservation.ownerKey :=
    (of_decide_eq_true hkb).symm.trans (hy.trans hr)
  obtain ⟨d, hd, -, hpp, hdk⟩ := hold.registered
  have hep : t ∈ expected.map (·.token) := by
    have hnt := List.find?_eq_none.mp hf ⟨t, d⟩ (AList.mem_lookup_iff.mp hd)
    rw [h.keyed t d hd] at hnt
    simpa [hdk, hk] using hnt
  obtain ⟨e', he', -, hen⟩ :=
    exists_of_watchMismatch (hp t (List.mem_dedup.mpr hep) d hd)
  rw [hpp, watch_of_valid hv he'] at hen
  cases hen

lemma revokeExactWatchTransaction (id : ℕ)
    (expected : List TradingToolHostSessionBinding) (observer) :
    Keeps t k h (h.revokeExactWatchTransaction id expected observer).2 := by
  simp only [TradingToolHost.revokeExactWatchTransaction]
  split
  · exact hold.refl
  split
  · exact hold.refl
  split
  · exact hold.refl
  rename_i hs
  split
  · rename_i token session reason _
    have ho := hold.disableSession (lookup_of_unexpected ‹_›)
    exact ho.trans (ho.tombstone.fenceOwner _)
  · exact hold.refl
  · rename_i targets _ hk
    exact hold.revokeTargets targets (hold.collected_not_owned (by simpa using hs) hk) id
      observer

lemma beginWatchTransaction (expected : List TradingToolHostSessionBinding) :
    Keeps t k h (h.beginWatchTransaction expected).2 := by
  simp only [TradingToolHost.beginWatchTransaction]
  split
  · exact hold.refl
  split
  · exact hold.refl
  · split <;> exact hold.refl
  · split
    · exact hold.refl
    · exact hold.of_eq rfl rfl rfl

lemma releaseWatchTransaction (id : ℕ)
    (expected : List TradingToolHostSessionBinding) :
    Keeps t k h (h.releaseWatchTransaction id expected).2 := by
  simp only [TradingToolHost.releaseWatchTransaction]
  split
  · exact hold.refl
  split
  · exact hold.refl
  · split
    · exact hold.refl
    · exact hold.of_eq rfl rfl rfl

lemma authorizeCommon (env : ToolEnv) (request : ToolRequest) (observer)
    (hf : ∀ b, h.sessions.lookup request.sessionToken = some b → b.enabled = true →
      b.expiresAtMs ≤ env.nowMs → b.sessionOwnerKey ≠ k) :
    Keeps t k h (h.authorizeCommon env request observer).2 := by
  simp only [TradingToolHost.authorizeCommon]
  split
  · exact hold.refl
  split
  · exact hold.refl
  rename_i session hs
  split
  · exact hold.refl
  split
  · exact hold.refl
  rename_i ho
  split
  · exact hold.refl
  split
  · rename_i he
    apply hold.revokeSessionWithReason
    have hk := hf session hs (by simpa using ho) he
    simpa [owns_of_lookup hs] using hk
  · split
    · exact hold.refl
    split
    · exact hold.refl
    · split
      · exact hold.refl
      · split <;> exact hold.refl

end Tombstone

/-! ### Runs -/

/-- What must not come between a tombstone of the owner and its purge: a revocation of one of its
sessions, a restored fence, another tombstone and a purge. A request in flight for the owner must
not find its token registered for another owner with the generation it was authorized for. -/
def Undisturbed (k : Bytes) (h : TradingToolHost) : Call → Prop
  | .revokeSession token _ _ | .revokeCurrentSessionIfOwner token _ _ _
  | .revokeSessionWithReason token _ => h.owns k token = false
  | .reapExpiredSessions nowMs _ => ∀ token ∈ h.expiredTokens nowMs, h.owns k token = false
  | .fenceRestoredSession b _ => b.sessionOwnerKey ≠ k
  | .restorePaperFinalizationTombstone _ b _ => b.sessionOwnerKey ≠ k
  | .purgeFinalizedRecoveryOwner _ r => sessionOwnerKey r.agentId r.sessionId ≠ k
  | .authorizeCommon env request _ =>
    ∀ b, h.sessions.lookup request.sessionToken = some b → b.enabled = true →
      b.expiresAtMs ≤ env.nowMs → b.sessionOwnerKey ≠ k
  | .dispatchMutation _ _ token binding | .dispatchRead _ _ token binding
  | .recheckEventWait _ token binding _ =>
    binding.sessionOwnerKey = k → ∀ b, h.sessions.lookup token = some b →
      b.leaseGeneration = binding.leaseGeneration → b.sessionOwnerKey = k
  | _ => True

/-- The call registers or rotates a session of the owner, or dispatches a tool call for it. -/
def ServesOwner (k : Bytes) (h : TradingToolHost) : Call → Prop
  | .registerSession _ b _ => b.sessionOwnerKey = k
  | .updateSessionLease _ u | .updatePaperSessionLeaseAfterAudit _ _ u =>
    h.owns k u.currentToken = true
  | .dispatchMutation _ _ token binding | .dispatchRead _ _ token binding
  | .recheckEventWait _ token binding _ => binding.sessionOwnerKey = k ∨ h.owns k token = true
  | _ => False

lemma Tombstone.step (hold : Tombstone t k h) (call : Call) (hc : Undisturbed k h call) :
    Keeps t k h (h.step call) := by
  cases call with
  | registerSession => exact hold.registerSession ..
  | updateSessionLease => exact hold.updateSessionLease ..
  | updatePaperSessionLeaseAfterAudit => exact hold.updatePaperSessionLeaseAfterAudit ..
  | revokeSession token gen observer =>
    exact hold.revokeSession hc (.generation gen) none observer
  | revokeCurrentSessionIfOwner =>
    simp only [TradingToolHost.step, perform, revokeCurrentSessionIfOwner]
    split
    · exact hold.refl
    · exact hold.revokeSession hc _ _ _
  | revokeSessionWithReason => exact hold.revokeSessionWithReason hc ..
  | reapExpiredSessions => exact hold.reapTokens _ hc ..
  | fenceRestoredSession => exact hold.fenceRestoredSession hc ..
  | enterRecoveryOnly => exact hold.enterRecoveryOnly ..
  | finalizeRecoveryOnlyOwner => exact hold.finalizeRecoveryOnlyOwner ..
  | fenceRecoveryOnlyOwner => exact hold.fenceRecoveryOnlyOwner ..
  | restorePaperFinalizationTombstone => exact hold.restorePaperFinalizationTombstone hc ..
  | purgeFinalizedRecoveryOwner env r => exact hold.purgeFinalizedRecoveryOwner env r hc
  | beginWatchTransaction => exact hold.beginWatchTransaction ..
  | releaseWatchTransaction => exact hold.releaseWatchTransaction ..
  | revokeExactWatchTransaction => exact hold.revokeExactWatchTransaction ..
  | authorizeCommon env request observer =>
    have hk := hold.authorizeCommon env request observer hc
    simp only [TradingToolHost.step, perform]
    split <;> rename_i heq <;> simpa [heq] using hk
  | dispatchMutation => exact hold.refl
  | dispatchRead =>
    simp only [TradingToolHost.step, perform]
    split <;> exact hold.refl
  | recheckEventWait => exact hold.refl

lemma Tombstone.update_refused (hold : Tombstone t k h) {u : LeaseUpdate}
    (ho : h.owns k u.currentToken = true) (env : RegisterEnv) {watchTransactionId : Option ℕ}
    {expectedCurrent : Option TradingToolHostSessionBinding} :
    (h.updateSessionLease env { u with watchTransactionId, expectedCurrent }).1 ≠ none := by
  simp only [TradingToolHost.updateSessionLease]
  split
  · simp
  split
  · simp
  rename_i current hc
  have hf : current.sessionOwnerKey ∈ h.pendingOwnerFences := by
    rw [show current.sessionOwnerKey = k by simpa [owns_of_lookup hc] using ho]
    exact hold.fenced
  split
  · simp
  · split
    · simp
    · simp [hf]

lemma Tombstone.refused (hold : Tombstone t k h) (hc : Undisturbed k h call)
    (hs : ServesOwner k h call) : (h.perform call).1 ≠ none := by
  -- under the token of a dispatch stands a session of the owner, if one of the right generation does
  have hr : ∀ {token : Bytes} {binding current : TradingToolHostSessionBinding},
      (binding.sessionOwnerKey = k → ∀ b, h.sessions.lookup token = some b →
        b.leaseGeneration = binding.leaseGeneration → b.sessionOwnerKey = k) →
      (binding.sessionOwnerKey = k ∨ h.owns k token = true) →
      h.sessions.lookup token = some current →
      current.leaseGeneration = binding.leaseGeneration →
      current.sessionOwnerKey ∈ h.pendingOwnerFences := by
    intro token binding current hm hw hl hg
    have hk : current.sessionOwnerKey = k := by
      rcases hw with hb | ho
      · exact hm hb current hl hg
      · simpa [owns_of_lookup hl] using ho
    exact hk ▸ hold.fenced
  cases call with
  | registerSession env b =>
    have hf : b.sessionOwnerKey ∈ h.pendingOwnerFences := by
      rw [show b.sessionOwnerKey = k from hs]
      exact hold.fenced
    simp only [perform, TradingToolHost.registerSession, hf]
    split
    · simp
    · simp
    · split_ifs <;> simp
  | updateSessionLease => exact hold.update_refused hs _
  | updatePaperSessionLeaseAfterAudit env register =>
    simp only [perform, TradingToolHost.updatePaperSessionLeaseAfterAudit]
    split
    · simp
    split
    · simp
    split
    · simp
    split
    · simp
    split
    · simp
    · simp
    · exact hold.update_refused hs register
  | dispatchMutation nowMs tool token binding =>
    simp only [perform, dispatchMutation]
    split
    · simp
    rename_i current hl
    split
    · simp
    · rename_i hg
      have hf := hr hc hs hl (not_not.mp hg)
      simp [hf]
  | dispatchRead nowMs tool token binding =>
    simp only [perform, dispatchRead]
    cases hl : h.sessions.lookup token with
    | none => simp
    | some current =>
      by_cases hg : current.leaseGeneration = binding.leaseGeneration
      · have hf := hr hc hs hl hg
        simp [hg, hf]
      · simp [hg]
  | recheckEventWait nowMs token binding inc =>
    simp only [perform, recheckEventWait]
    split
    · simp
    rename_i current hl
    split
    · simp
    rename_i hg
    have hf := hr hc hs hl (not_not.mp hg)
    split
    · simp
    · simp [hf]
  | _ => exact hs.elim

/-- The call puts the tombstone of the record in place. -/
def Installs (r : SessionSupervisorLeaseRecord) : Call → Prop
  | .fenceRecoveryOnlyOwner _ _ _ r' => r' = r
  | .restorePaperFinalizationTombstone _ _ r' => r' = r
  | _ => False

lemma sessionOwnerKey_of_recordOwns (ho : recordOwns b r = true) :
    b.sessionOwnerKey = sessionOwnerKey r.agentId r.sessionId := by
  simp only [recordOwns, Bool.and_eq_true, decide_eq_true_eq] at ho
  obtain ⟨⟨⟨ha, hs⟩, -⟩, -⟩ := ho
  rw [TradingToolHostSessionBinding.sessionOwnerKey, ha, hs]

lemma fenceRecoveryOnlyOwner_ok {env : RecoveryEnv} {gen : ℕ}
    (hk : h.fenceRecoveryOnlyOwner env token gen r = (none, h')) :
    ∃ session, h.sessions.lookup r.token = some session ∧ session.environment = .paper ∧
      recordOwns session r = true ∧
      h' = (h.amendSession r.token false true session.expiresAtMs).fenceOwner
        session.sessionOwnerKey := by
  simp only [fenceRecoveryOnlyOwner] at hk
  split at hk
  · simp at hk
  split at hk
  · simp at hk
  rename_i session hs
  split at hk
  · simp at hk
  rename_i hb
  split at hk
  · simp at hk
  simp only [not_or, not_not, Bool.not_eq_eq_eq_not, Bool.not_true] at hb
  obtain ⟨-, -, -, -, -, -, rfl, -, -, -, -, -, -, hp, -, ho⟩ := hb
  simp only [Prod.mk.injEq, true_and] at hk
  exact ⟨session, hs, hp, by simpa using ho, hk.symm⟩

lemma restorePaperFinalizationTombstone_ok {env : RecoveryEnv}
    (hk : h.restorePaperFinalizationTombstone env b r = (none, h')) :
    b.token = r.token ∧ b.environment = .paper ∧ recordOwns b r = true ∧
      h' = (h.putSession
        { b with enabled := false, recoveryOnly := true, expiresAtMs := r.expiresAtMs }).fenceOwner
          b.sessionOwnerKey := by
  simp only [restorePaperFinalizationTombstone] at hk
  split at hk
  · simp at hk
  rename_i hb
  split at hk
  · simp at hk
  split at hk
  · simp at hk
  split at hk
  · simp at hk
  simp only [not_or, not_not, Bool.not_eq_eq_eq_not, Bool.not_true] at hb
  obtain ⟨-, -, -, -, htoken, -, -, hp, ho⟩ := hb
  simp only [Prod.mk.injEq, true_and] at hk
  exact ⟨htoken, hp, by simpa using ho, hk.symm⟩

lemma tombstone_of_installs (hi : Installs r call) (hok : (h.perform call).1 = none) :
    Tombstone r.token (sessionOwnerKey r.agentId r.sessionId) (h.step call) := by
  have hr : h.perform call = (none, h.step call) := Prod.ext hok rfl
  cases call with
  | fenceRecoveryOnlyOwner env token gen r' =>
    obtain rfl : r' = r := hi
    obtain ⟨se, hss, hp, ho, hs⟩ := fenceRecoveryOnlyOwner_ok hr
    have hk := sessionOwnerKey_of_recordOwns ho
    rw [hs]
    constructor
    · exact hk ▸ Finset.mem_insert_self _ _
    · refine ⟨{ se with enabled := false, recoveryOnly := true }, ?_, rfl, hp, hk⟩
      simp [fenceOwner, amendSession, hss]
  | restorePaperFinalizationTombstone env b r' =>
    obtain rfl : r' = r := hi
    obtain ⟨ht, hp, ho, hs⟩ := restorePaperFinalizationTombstone_ok hr
    have hk := sessionOwnerKey_of_recordOwns ho
    rw [hs]
    constructor
    · exact hk ▸ Finset.mem_insert_self _ _
    · refine ⟨{ b with enabled := false, recoveryOnly := true, expiresAtMs := r'.expiresAtMs },
        ?_, rfl, hp, hk⟩
      rw [← ht]
      exact AList.lookup_insert _
  | _ => exact hi.elim

/-- Once its tombstone is in place, and in every run that leaves the owner undisturbed, the tombstone
stays registered and disabled, the owner gets no new session, and no call serves it. -/
theorem tombstone_stays {r : SessionSupervisorLeaseRecord} {first : Call} {calls : List Call}
    (hinstalls : Installs r first) (hok : (h.perform first).1 = none)
    (hrun : Guarded.Run step (Undisturbed (sessionOwnerKey r.agentId r.sessionId)) (h.step first)
      calls) :
    Keeps r.token (sessionOwnerKey r.agentId r.sessionId) (h.step first)
        (calls.foldl step (h.step first)) ∧
      ∀ call, Undisturbed (sessionOwnerKey r.agentId r.sessionId)
          (calls.foldl step (h.step first)) call →
        ServesOwner (sessionOwnerKey r.agentId r.sessionId) (calls.foldl step (h.step first)) call →
        ((calls.foldl step (h.step first)).perform call).1 ≠ none := by
  have hk : Keeps r.token (sessionOwnerKey r.agentId r.sessionId) (h.step first)
      (calls.foldl step (h.step first)) := by
    apply hrun.invariant (motive := Keeps r.token _ (h.step first))
    · exact (tombstone_of_installs hinstalls hok).refl
    · intro h' call hk hc
      exact hk.trans (hk.tombstone.step call hc)
  exact ⟨hk, fun call hc hs => hk.tombstone.refused hc hs⟩

/-- A lease of a paper session whose finalization has fenced the owner. -/
def fencedRecord : SessionSupervisorLeaseRecord where
  templateId := ascii "paper"
  token := ascii "token-0123456789-0123456789"
  agentId := ascii "agent"
  sessionId := ascii "session"
  ownerAccount := ascii "DU1"
  ownerExecutionDomain := ascii "paper"
  expiresAtMs := 100
  leaseGeneration := 1
  recoveryOnly := true
  paperFinalizationRequired := true
  paperFinalizationState := .fencePending

def fencedBinding : TradingToolHostSessionBinding where
  token := fencedRecord.token
  environment := .paper
  agentId := fencedRecord.agentId
  sessionId := fencedRecord.sessionId
  account := fencedRecord.ownerAccount
  executionDomain := fencedRecord.ownerExecutionDomain
  expiresAtMs := 300

def restored : Call := .restorePaperFinalizationTombstone {} fencedBinding fencedRecord

/-- A reap and a registration of the owner, before the lease expires. -/
def unexpiredCalls : List Call :=
  [.reapExpiredSessions 50 fun _ => none, .registerSession { nowMs := 50 } fencedBinding none]

/-- Before the lease expires, the tombstone outlasts a reap and a registration of the owner. -/
theorem tombstone_stays_unexpired :
    Tombstone fencedRecord.token (sessionOwnerKey fencedRecord.agentId fencedRecord.sessionId)
      (unexpiredCalls.foldl step (({} : TradingToolHost).step restored)) := by
  have hr : Guarded.Run step
      (Undisturbed (sessionOwnerKey fencedRecord.agentId fencedRecord.sessionId))
      (({} : TradingToolHost).step restored) unexpiredCalls := by
    refine ⟨?_, trivial, trivial⟩
    change ∀ token ∈ (({} : TradingToolHost).step restored).expiredTokens 50, _
    decide
  have hi : Installs fencedRecord restored := rfl
  exact (tombstone_stays hi (by decide) hr).1.tombstone

/-- A reap after the lease expired removes the tombstone and the fence, and the owner registers
again. -/
theorem tombstone_reaped :
    (({} : TradingToolHost).perform restored).1 = none ∧
      let reaped := (({} : TradingToolHost).step restored).step
        (.reapExpiredSessions 200 fun _ => none)
      reaped.sessions.lookup fencedRecord.token = none ∧
        sessionOwnerKey fencedRecord.agentId fencedRecord.sessionId ∉ reaped.pendingOwnerFences ∧
        (reaped.perform (.registerSession { nowMs := 200 } fencedBinding none)).1 = none := by
  decide

end TradingToolHost

end Hepta
