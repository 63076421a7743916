import Hepta.ToolHost.Calls

/-!
# What is registered after a call

An enabled session after a call is a registration from before it, with its generation, or one that the
call made. Only `RegisterSession` and the rotations make one.
-/

namespace Hepta

namespace TradingToolHost

variable {h h' h'' : TradingToolHost} {token : Bytes} {b : TradingToolHostSessionBinding}
  {new : Bytes → ℕ → Prop}

/-- An enabled session of `h'` is a registration of `h`, or its token and generation are new. -/
def Registered (new : Bytes → ℕ → Prop) (h h' : TradingToolHost) : Prop :=
  ∀ token b', h'.sessions.lookup token = some b' → b'.enabled = true →
    (∃ b, h.sessions.lookup token = some b ∧ b.enabled = true ∧
      b.leaseGeneration = b'.leaseGeneration ∧
      h'.sessionIncarnations.lookup token = h.sessionIncarnations.lookup token) ∨
    new token b'.leaseGeneration

namespace Registered

lemma of_eq (hs : h'.sessions = h.sessions)
    (hi : h'.sessionIncarnations = h.sessionIncarnations) : Registered new h h' := by
  intro token b hb ho
  exact .inl ⟨b, hs ▸ hb, ho, rfl, by rw [hi]⟩

lemma refl (h : TradingToolHost) : Registered new h h := of_eq rfl rfl

lemma trans (first : Registered new h h') (second : Registered new h' h'') :
    Registered new h h'' := by
  intro token b'' hb'' ho''
  obtain ⟨b', hb', ho', hg', hi'⟩ | hnew := second token b'' hb'' ho''
  · obtain ⟨b, hb, ho, hg, hi⟩ | hnew := first token b' hb' ho'
    · exact .inl ⟨b, hb, ho, hg.trans hg', hi'.trans hi⟩
    · exact .inr (hg' ▸ hnew)
  · exact .inr hnew

lemma fenceOwner (key : Bytes) : Registered new h (h.fenceOwner key) := of_eq rfl rfl

lemma releaseOwner (key : Bytes) : Registered new h (h.releaseOwner key) := of_eq rfl rfl

lemma eraseSession (token : Bytes) : Registered new h (h.eraseSession token) := by
  intro token' b hb ho
  have he : token' ≠ token := by
    rintro rfl
    simp [TradingToolHost.eraseSession, AList.lookup_erase] at hb
  exact .inl ⟨b, (AList.lookup_erase_ne he).symm.trans hb, ho, rfl, AList.lookup_erase_ne he⟩

lemma putSession (hb : b.enabled = true → new b.token b.leaseGeneration) :
    Registered new h (h.putSession b) := by
  intro token b' hb' ho
  by_cases ht : token = b.token
  · subst ht
    obtain rfl : b = b' := Option.some.inj ((AList.lookup_insert _).symm.trans hb')
    exact .inr (hb ho)
  · exact .inl ⟨b', (AList.lookup_insert_ne ht).symm.trans hb', ho, rfl, AList.lookup_insert_ne ht⟩

lemma amendSession {en : Bool} (recoveryOnly : Bool) (expiresAtMs : ℕ)
    (ho : ∀ b, h.sessions.lookup token = some b → en = true → b.enabled = true) :
    Registered new h (h.amendSession token en recoveryOnly expiresAtMs) := by
  intro token' b' hb' ho'
  simp only [TradingToolHost.amendSession] at hb'
  split at hb'
  · exact .inl ⟨b', hb', ho', rfl, rfl⟩
  rename_i b hb
  by_cases ht : token' = token
  · subst ht
    obtain rfl := Option.some.inj ((AList.lookup_insert _).symm.trans hb')
    exact .inl ⟨b, hb, ho b hb ho', rfl, rfl⟩
  · exact .inl ⟨b', (AList.lookup_insert_ne ht).symm.trans hb', ho', rfl, rfl⟩

lemma disable (token key : Bytes) (b : TradingToolHostSessionBinding) :
    Registered new h ((h.disableSession token b).fenceOwner key) := by
  refine trans (amendSession _ _ ?_) (fenceOwner key)
  intro b' _ ho
  cases ho

lemma erase_release (token key : Bytes) :
    Registered new h ((h.eraseSession token).releaseOwner key) :=
  (eraseSession token).trans (releaseOwner key)

/-! ### The calls -/

lemma registerSession (env : RegisterEnv) (watchTransactionId : Option ℕ)
    (hb : new b.token b.leaseGeneration) :
    Registered new h (h.registerSession env b watchTransactionId).2 := by
  simp only [TradingToolHost.registerSession]
  repeat' split
  all_goals first | exact refl h | exact putSession fun _ => hb

lemma updateSessionLease (env : RegisterEnv) (u : LeaseUpdate)
    (hu : new u.replacementToken (u.expectedGeneration + 1)) :
    Registered new h (h.updateSessionLease env u).2 := by
  simp only [TradingToolHost.updateSessionLease]
  repeat' split
  all_goals first
    | exact refl h
    | exact disable _ _ _
    | exact (eraseSession _).trans (putSession fun _ => hu)

variable (env : RecoveryEnv)

lemma updatePaperSessionLeaseAfterAudit (register : RegisterEnv)
    (u : LeaseUpdate) (hu : new u.replacementToken (u.expectedGeneration + 1)) :
    Registered new h (h.updatePaperSessionLeaseAfterAudit env register u).2 := by
  simp only [TradingToolHost.updatePaperSessionLeaseAfterAudit]
  repeat' split
  all_goals first | exact refl h | exact updateSessionLease register _ hu

lemma revokeSession (token : Bytes) (expected : RevokeExpectation) (watchTransactionId : Option ℕ)
    (observer) :
    Registered new h (h.revokeSession token expected watchTransactionId observer).2 := by
  simp only [TradingToolHost.revokeSession]
  repeat' split
  all_goals first | exact refl h | exact disable _ _ _ | exact erase_release _ _

lemma revokeSessionWithReason (token : Bytes) (observer) :
    Registered new h (h.revokeSessionWithReason token observer).2 := by
  simp only [TradingToolHost.revokeSessionWithReason]
  split
  · exact refl h
  · exact revokeSession _ _ _ _

lemma reapTokens (tokens : List Bytes) (observer) :
    Registered new h
      (tokens.foldl (fun h token => (h.revokeSessionWithReason token observer).2) h) := by
  induction tokens generalizing h with
  | nil => exact refl h
  | cons token tokens ih => exact (revokeSessionWithReason token observer).trans ih

lemma revokeTargets (targets : List (Bytes × ℕ)) (id : ℕ) (observer) :
    Registered new h (TradingToolHost.revokeTargets id observer h targets).2 := by
  induction targets generalizing h with
  | nil => exact refl h
  | cons tg targets ih =>
    have hf : Registered new h
        (h.revokeSession tg.1 (.generation tg.2) (some id) observer).2 :=
      revokeSession _ _ _ _
    simp only [TradingToolHost.revokeTargets]
    split
    · rename_i heq
      simpa [heq] using hf
    · rename_i heq
      rw [heq] at hf
      exact hf.trans ih

lemma revokeExactWatchTransaction (id : ℕ) (expected : List TradingToolHostSessionBinding)
    (observer) : Registered new h (h.revokeExactWatchTransaction id expected observer).2 := by
  simp only [TradingToolHost.revokeExactWatchTransaction]
  repeat' split
  all_goals first | exact refl h | exact disable _ _ _ | exact revokeTargets _ _ _

lemma fenceRestoredSession (observer) : Registered new h (h.fenceRestoredSession b observer).2 := by
  simp only [TradingToolHost.fenceRestoredSession]
  repeat' split
  all_goals exact refl h

lemma enterRecoveryOnly (token : Bytes) (gen : ℕ)
    (targetCommandId : Bytes) (ownerAudit : Bool) (r : SessionSupervisorLeaseRecord)
    (exp : ℕ) :
    Registered new h (h.enterRecoveryOnly env token gen targetCommandId ownerAudit r
      exp).2 := by
  simp only [TradingToolHost.enterRecoveryOnly]
  split
  · exact refl h
  split
  · exact refl h
  rename_i session hs
  have hm : ∀ b, h.sessions.lookup token = some b → session.enabled = true →
      b.enabled = true := by
    intro b hb ho
    exact Option.some.inj (hs.symm.trans hb) ▸ ho
  repeat' split
  all_goals first | exact refl h | exact amendSession _ _ hm

lemma finalizeRecoveryOnlyOwner (token : Bytes) (gen : ℕ) (r : SessionSupervisorLeaseRecord) :
    Registered new h (h.finalizeRecoveryOnlyOwner env token gen r).2 := by
  simp only [TradingToolHost.finalizeRecoveryOnlyOwner]
  repeat' split
  all_goals first | exact refl h | exact eraseSession _

lemma fenceRecoveryOnlyOwner (token : Bytes) (gen : ℕ) (r : SessionSupervisorLeaseRecord) :
    Registered new h (h.fenceRecoveryOnlyOwner env token gen r).2 := by
  simp only [TradingToolHost.fenceRecoveryOnlyOwner]
  repeat' split
  all_goals try exact refl h
  refine trans (amendSession _ _ ?_) (fenceOwner _)
  intro b _ ho
  cases ho

lemma restorePaperFinalizationTombstone (r : SessionSupervisorLeaseRecord) :
    Registered new h (h.restorePaperFinalizationTombstone env b r).2 := by
  simp only [TradingToolHost.restorePaperFinalizationTombstone]
  repeat' split
  all_goals try exact refl h
  refine trans (putSession ?_) (fenceOwner _)
  intro ho
  cases ho

lemma purgeFinalizedRecoveryOwner (r : SessionSupervisorLeaseRecord) :
    Registered new h (h.purgeFinalizedRecoveryOwner env r).2 := by
  simp only [TradingToolHost.purgeFinalizedRecoveryOwner]
  repeat' split
  all_goals first | exact refl h | exact erase_release _ _

lemma beginWatchTransaction (expected : List TradingToolHostSessionBinding) :
    Registered new h (h.beginWatchTransaction expected).2 := by
  simp only [TradingToolHost.beginWatchTransaction]
  repeat' split
  all_goals exact of_eq rfl rfl

lemma releaseWatchTransaction (id : ℕ) (expected : List TradingToolHostSessionBinding) :
    Registered new h (h.releaseWatchTransaction id expected).2 := by
  simp only [TradingToolHost.releaseWatchTransaction]
  repeat' split
  all_goals exact of_eq rfl rfl

lemma authorizeCommon (env : ToolEnv) (request : ToolRequest) (observer) :
    Registered new h (h.authorizeCommon env request observer).2 := by
  simp only [TradingToolHost.authorizeCommon]
  repeat' split
  all_goals first | exact refl h | exact revokeSessionWithReason _ _

end Registered

/-- The call registers the token with the generation, if it is accepted. -/
def Registers (token : Bytes) (generation : ℕ) : Call → Prop
  | .registerSession _ b _ => b.token = token ∧ b.leaseGeneration = generation
  | .updateSessionLease _ u | .updatePaperSessionLeaseAfterAudit _ _ u =>
    u.replacementToken = token ∧ u.expectedGeneration + 1 = generation
  | _ => False

lemma registered_step (h : TradingToolHost) (call : Call) :
    Registered (fun token generation => Registers token generation call) h (h.step call) := by
  cases call with
  | registerSession env b watchTransactionId =>
    exact Registered.registerSession env watchTransactionId ⟨rfl, rfl⟩
  | updateSessionLease env u => exact Registered.updateSessionLease env u ⟨rfl, rfl⟩
  | updatePaperSessionLeaseAfterAudit env register u =>
    exact Registered.updatePaperSessionLeaseAfterAudit env register u ⟨rfl, rfl⟩
  | revokeSession token gen observer =>
    exact Registered.revokeSession token (.generation gen) none observer
  | revokeCurrentSessionIfOwner =>
    simp only [step, perform, revokeCurrentSessionIfOwner]
    split
    · exact Registered.refl h
    · exact Registered.revokeSession _ _ _ _
  | revokeSessionWithReason => exact Registered.revokeSessionWithReason _ _
  | reapExpiredSessions => exact Registered.reapTokens _ _
  | fenceRestoredSession => exact Registered.fenceRestoredSession _
  | enterRecoveryOnly => exact Registered.enterRecoveryOnly _ _ _ _ _ _ _
  | finalizeRecoveryOnlyOwner => exact Registered.finalizeRecoveryOnlyOwner _ _ _ _
  | fenceRecoveryOnlyOwner => exact Registered.fenceRecoveryOnlyOwner _ _ _ _
  | restorePaperFinalizationTombstone => exact Registered.restorePaperFinalizationTombstone _ _
  | purgeFinalizedRecoveryOwner => exact Registered.purgeFinalizedRecoveryOwner _ _
  | beginWatchTransaction => exact Registered.beginWatchTransaction _
  | releaseWatchTransaction => exact Registered.releaseWatchTransaction _ _
  | revokeExactWatchTransaction => exact Registered.revokeExactWatchTransaction _ _ _
  | authorizeCommon env request observer =>
    have hc : Registered
        (fun token generation => Registers token generation (.authorizeCommon env request observer))
        h (h.authorizeCommon env request observer).2 := .authorizeCommon env request observer
    simp only [step, perform]
    split <;> rename_i heq <;> simpa [heq] using hc
  | dispatchMutation => exact Registered.refl h
  | dispatchRead =>
    simp only [step, perform]
    split <;> exact Registered.refl h
  | recheckEventWait => exact Registered.refl h

end TradingToolHost

end Hepta
