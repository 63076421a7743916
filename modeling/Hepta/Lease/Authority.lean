import Hepta.Library.Text
import Hepta.Execution.Contract
import Hepta.Lease.Manager

/-!
# The lease authority of the execution service

`ExecutionDecisionLeaseAuthority` obtains a decision lease for every mutation: it renews the lease
that it has noted for the owner and acquires one otherwise. Its table and the entries of the manager
are updated by different calls; they agree about every active lease. Fencing tokens order the
grants, and a credential that is over never comes back.
-/

namespace Hepta

open Finmap

structure ActiveLease where
  key : DecisionLeaseKey
  owner : DecisionLeaseOwner
  credential : DecisionLeaseCredential
  deriving DecidableEq, Repr

structure ExecutionDecisionLeaseAuthority where
  manager : DecisionLeaseManager
  leaseTtl : Int
  active : UMap String ActiveLease := ∅

/-- What `Authorize` hands back, and the answer of the manager that it goes by. -/
structure AuthorizeReply where
  authorized : Bool
  context : AgentExecutionContext
  reason : String
  lease : DecisionLeaseResult
  deriving DecidableEq, Repr

/-- What `Validate` hands back, and the status that it goes by. -/
structure ValidateReply where
  valid : Bool
  detail : String
  status : DecisionLeaseStatus
  deriving DecidableEq, Repr

variable (context : AgentExecutionContext)

def AgentExecutionContext.leaseKey (instrument : String) :
    DecisionLeaseKey :=
  { executionDomain := context.executionDomain, account := context.account, instrument }

def AgentExecutionContext.leaseOwner : DecisionLeaseOwner :=
  { agentId := context.agentId, sessionId := context.sessionId }

/-- The credential that a mutation carries. -/
def AgentExecutionContext.leaseCredential :
    DecisionLeaseCredential :=
  { fencingToken := context.decisionLeaseFencingToken
    generation := context.decisionLeaseGeneration }

namespace ExecutionDecisionLeaseAuthority

/-- An authority that has granted nothing yet. -/
def start (leaseTtl : Int) : ExecutionDecisionLeaseAuthority :=
  { manager := { maxTtl := leaseTtl }, leaseTtl }

def mapKey (key : DecisionLeaseKey) : String :=
  key.executionDomain.sized ++ (key.account.sized ++ key.instrument.sized)

def authorizationFailure : DecisionLeaseStatus → String
  | .busy => "EXECUTION_DECISION_LEASE_BUSY"
  | .clockFailure => "EXECUTION_DECISION_LEASE_CLOCK_FAILURE"
  | .fencingExhausted => "EXECUTION_DECISION_LEASE_FENCING_EXHAUSTED"
  | _ => "EXECUTION_DECISION_LEASE_AUTHORIZATION_FAILED"

lemma authorizationFailure_eq_busy {st : DecisionLeaseStatus}
    (h : authorizationFailure st = "EXECUTION_DECISION_LEASE_BUSY") : st = .busy := by
  revert h
  cases st <;> decide

/-- The part of `Authorize` that asks the manager. The clock is read a second time only when the
renewal finds the lease over. -/
def obtain (a : ExecutionDecisionLeaseAuthority) (key : DecisionLeaseKey)
    (owner : DecisionLeaseOwner) (first second : Option Int) :
    ExecutionDecisionLeaseAuthority × DecisionLeaseResult :=
  match (a.active.lookup (mapKey key)).filter fun held => held.owner = owner with
  | some held =>
    let (manager, lease) := a.manager.renew key owner held.credential a.leaseTtl first
    if lease.status = .expired ∨ lease.status = .notFound then
      let (manager, lease) := manager.acquire key owner a.leaseTtl second
      ({ a with manager, active := a.active.erase (mapKey key) }, lease)
    else ({ a with manager }, lease)
  | none =>
    let (manager, lease) := a.manager.acquire key owner a.leaseTtl first
    ({ a with manager }, lease)

def authorize (a : ExecutionDecisionLeaseAuthority) (context : AgentExecutionContext)
    (instrument : String) (first second : Option Int) :
    ExecutionDecisionLeaseAuthority × AuthorizeReply :=
  let key := context.leaseKey instrument
  let owner := context.leaseOwner
  let (a, lease) := a.obtain key owner first second
  if !lease.succeeded then
    (a,
      { authorized := false
        context := { context with decisionLeaseFencingToken := 0, decisionLeaseGeneration := 0 }
        reason := authorizationFailure lease.status
        lease })
  else
    ({ a with
        active := a.active.insert (mapKey key) { key, owner, credential := lease.credential } },
      { authorized := true
        context :=
          { context with
            decisionLeaseFencingToken := lease.credential.fencingToken
            decisionLeaseGeneration := lease.credential.generation }
        reason := ""
        lease })

def validate (a : ExecutionDecisionLeaseAuthority) (context : AgentExecutionContext)
    (instrument : String) (reading : Option Int) :
    ExecutionDecisionLeaseAuthority × ValidateReply :=
  let (manager, result) := a.manager.validate (context.leaseKey instrument) context.leaseOwner
    context.leaseCredential reading
  ({ a with manager },
    { valid := result.succeeded
      detail := if result.succeeded then "" else
        "EXECUTION_DECISION_LEASE_" ++ result.status.statusName
      status := result.status })

def fenceOwner (a : ExecutionDecisionLeaseAuthority) (agentId sessionId : String) :
    ExecutionDecisionLeaseAuthority × Nat :=
  let owner : DecisionLeaseOwner := { agentId, sessionId }
  let (manager, fenced) := a.manager.fenceOwner owner
  ({ a with manager, active := a.active.keepValues fun held => held.owner ≠ owner }, fenced)

/-- A call, with the readings of the clock that it meets. -/
inductive Call where
  | authorize (context : AgentExecutionContext) (instrument : String) (first second : Option Int)
  | validate (context : AgentExecutionContext) (instrument : String) (reading : Option Int)
  | fenceOwner (agentId sessionId : String)

def step (a : ExecutionDecisionLeaseAuthority) : Call → ExecutionDecisionLeaseAuthority
  | .authorize context instrument first second => (a.authorize context instrument first second).1
  | .validate context instrument reading => (a.validate context instrument reading).1
  | .fenceOwner agentId sessionId => (a.fenceOwner agentId sessionId).1

def run (a : ExecutionDecisionLeaseAuthority) (calls : List Call) :
    ExecutionDecisionLeaseAuthority :=
  calls.foldl step a

/-! ### The two tables -/

open DecisionLeaseManager

variable {a : ExecutionDecisionLeaseAuthority} {key key' : DecisionLeaseKey}
  {owner : DecisionLeaseOwner} {granted : ActiveLease} {m m' : DecisionLeaseManager} {call : Call}

lemma mapKey_injective (h : mapKey key = mapKey key') : key = key' := by
  obtain ⟨hd, hr⟩ := String.sized_append_inj h
  obtain ⟨ha, hi⟩ := String.sized_append_inj hr
  obtain ⟨hi, -⟩ := String.sized_append_inj (x := "") (y := "") (by simpa using hi)
  cases key
  cases key'
  simp_all

def Noted (a : ExecutionDecisionLeaseAuthority) (key : DecisionLeaseKey) : Prop :=
  ∀ lease, a.manager.lease key = some lease → lease.1.valid = true ∧
    a.active.lookup (mapKey key) = some { key, owner := lease.1, credential := lease.2 }

/-- What asking the manager does. -/
structure Obtained (a : ExecutionDecisionLeaseAuthority) (key : DecisionLeaseKey)
    (owner : DecisionLeaseOwner) (first : Option Int)
    (r : ExecutionDecisionLeaseAuthority × DecisionLeaseResult) : Prop where
  kept : Kept a.manager r.1.manager
  other : ∀ key', key' ≠ key → r.1.manager.lease key' = a.manager.lease key' ∧
    r.1.active.lookup (mapKey key') = a.active.lookup (mapKey key')
  succeeded : r.2.succeeded = true →
    owner.valid = true ∧ r.1.manager.lease key = some (owner, r.2.credential)
  refused : r.2.succeeded = false → r.1.manager.lease key = none ∨
    r.1.manager.lease key = a.manager.lease key ∧
      r.1.active.lookup (mapKey key) = a.active.lookup (mapKey key)
  granted : r.2.status = .acquired →
    r.2.credential.fencingToken = a.manager.lastFencingToken + 1 ∧
    r.1.manager.lastFencingToken = a.manager.lastFencingToken + 1 ∧
    r.2.credential.generation = a.manager.generation key + 1 ∧
    r.1.manager.generation key = r.2.credential.generation
  busy : r.2.status = .busy → ∃ now, first = some now ∧ (a.manager.entry key).active = true ∧
    now < (a.manager.entry key).expiresAt ∧ (a.manager.entry key).owner ≠ owner

lemma lease_of_active (h : (m.entry key).active = true) :
    m.lease key = some ((m.entry key).owner, (m.entry key).credential) := by
  rw [DecisionLeaseManager.lease, DecisionLeaseEntry.lease, if_pos h]

lemma obtained_acquire {first rd : Option Int}
    {r : DecisionLeaseManager × DecisionLeaseResult} {active : UMap String ActiveLease}
    (hf : a.manager.Faded key m) (h : m.Acquires key owner rd r)
    (ha : ∀ key', key' ≠ key → active.lookup (mapKey key') = a.active.lookup (mapKey key'))
    (hs : m.lease key = none ∨ m = a.manager ∧ active = a.active ∧ rd = first ∧
      ∀ lease, a.manager.lease key = some lease → lease.1 ≠ owner) :
    a.Obtained key owner first ({ a with manager := r.1, active }, r.2) := by
  have hp := hf.kept.trans h.kept
  cases h with
  | refused he hst =>
    have hnt : ∀ status ∈ [DecisionLeaseStatus.invalidArgument, .clockFailure, .fencingExhausted],
        ({ status } : DecisionLeaseResult).succeeded = false ∧ status ≠ .acquired ∧
          status ≠ .busy := by decide
    obtain ⟨hfa, hg, hb⟩ := hnt _ hst
    refine ⟨hp, fun key' hk => ⟨?_, ha key' hk⟩, fun h => ?_, fun _ => ?_,
      fun h => absurd h hg, fun h => absurd h hb⟩
    · exact (he.other key' hk).trans (hf.other key' hk)
    · exact absurd (hfa.symm.trans h) Bool.false_ne_true
    · rcases he.lease with hnn | hm
      · exact .inl hnn
      · rcases hs with hnn | ⟨rfl, rfl, -⟩
        · exact .inl (hm.trans hnn)
        · exact .inr ⟨hm, rfl⟩
  | busy he hreading hh hlive hl =>
    rcases hs with hnn | ⟨rfl, rfl, rfl, ho⟩
    · rw [lease_of_active hh] at hnn
      cases hnn
    refine ⟨hp, fun key' hk => ⟨he.other key' hk, rfl⟩, ?_,
      fun _ => .inr ⟨hl, rfl⟩, ?_, fun _ => ⟨_, hreading, hh, hlive, ?_⟩⟩
    · intro h
      cases h
    · intro h
      cases h
    · exact ho _ (lease_of_active hh)
  | granted hv ht hgn hls hl hw hy =>
    refine ⟨hp, fun key' hk => ⟨?_, ha key' hk⟩, fun _ => ⟨hv, hl⟩, ?_,
      fun _ => ⟨?_, ?_, ?_, hw⟩, ?_⟩
    · exact (hy key' hk).1.trans (hf.other key' hk)
    · intro h
      cases h
    · rw [ht, hf.token]
    · rw [hls, hf.token]
    · rw [hgn, hf.generation]
    · intro h
      cases h

lemma obtained (h : a.Noted key) (owner : DecisionLeaseOwner) (first second : Option Int) :
    a.Obtained key owner first (a.obtain key owner first second) := by
  unfold obtain
  split
  · rename_i held hh
    obtain ⟨hh, hm⟩ := Option.filter_eq_some_iff.mp hh
    have hc := a.manager.renew_checks key owner held.credential a.leaseTtl first
    generalize a.manager.renew key owner held.credential a.leaseTtl first = r at hc
    dsimp only
    split
    · rename_i he
      refine obtained_acquire hc.faded (acquires _ key owner _ second) ?_ (.inl (hc.ended he))
      intro key' hk
      exact lookup_erase_ne fun h => hk (mapKey_injective h)
    · refine ⟨hc.faded.kept, fun key' hk => ⟨hc.faded.other key' hk, rfl⟩, ?_, ?_, ?_,
        ?_⟩
      · intro hs
        obtain ⟨hb, ha, hr⟩ := hc.held hs
        exact ⟨(h _ hb).1, hr.symm ▸ ha⟩
      · intro _
        exact hc.faded.lease.imp id fun hl => ⟨hl, rfl⟩
      · exact fun ht => absurd ht hc.status.2
      · exact fun ht => absurd ht hc.status.1
  · rename_i hnn
    refine obtained_acquire (.refl _ key) (acquires _ key owner _ first) (fun _ _ => rfl)
      (.inr ⟨rfl, rfl, rfl, fun lease hl ho => ?_⟩)
    rw [(h lease hl).2, Option.filter_some, if_pos (by simpa using ho)] at hnn
    cases hnn

/-- The invariant: every active lease is noted and has a token that was granted. -/
structure Agreed (a : ExecutionDecisionLeaseAuthority) : Prop where
  noted : ∀ key, a.Noted key
  token : ∀ key lease, a.manager.lease key = some lease →
    lease.2.fencingToken ≤ a.manager.lastFencingToken

lemma agreed_start (ttl : Int) : (start ttl).Agreed := by
  have hnn : ∀ key, (start ttl).manager.lease key = none := fun _ => rfl
  constructor <;> intro key lease h <;> rw [hnn] at h <;> cases h

lemma token_le {a' : ExecutionDecisionLeaseAuthority} (h : a.Agreed)
    (hk : Kept a.manager a'.manager) (key : DecisionLeaseKey)
    (lease : DecisionLeaseOwner × DecisionLeaseCredential) (hl : a'.manager.lease key = some lease)
    : lease.2.fencingToken ≤ a'.manager.lastFencingToken := by
  rcases hk.lease key lease hl with ho | ⟨-, hw⟩
  · exact (h.token key lease ho).trans hk.token
  · exact hw

section Authorize

variable (a : ExecutionDecisionLeaseAuthority) (context : AgentExecutionContext)
  (instrument : String) (first second : Option Int)

lemma manager_authorize : (a.authorize context instrument first second).1.manager =
    (a.obtain (context.leaseKey instrument) context.leaseOwner first second).1.manager := by
  unfold authorize
  dsimp only
  split <;> rfl

lemma lease_authorize : (a.authorize context instrument first second).2.lease =
    (a.obtain (context.leaseKey instrument) context.leaseOwner first second).2 := by
  unfold authorize
  dsimp only
  split <;> rfl

variable {a context instrument first second}

lemma leaseCredential_authorize
    (h : (a.authorize context instrument first second).2.lease.succeeded = true) :
    (a.authorize context instrument first second).2.context.leaseCredential =
      (a.authorize context instrument first second).2.lease.credential := by
  rw [lease_authorize] at *
  unfold authorize
  dsimp only
  rw [if_neg (by simp [h])]
  rfl

lemma reason_authorize_busy
    (h : (a.authorize context instrument first second).2.reason = "EXECUTION_DECISION_LEASE_BUSY") :
    (a.authorize context instrument first second).2.lease.status = .busy := by
  rw [lease_authorize]
  unfold authorize at h
  dsimp only at h
  split at h
  · exact authorizationFailure_eq_busy h
  · simp at h

end Authorize

lemma authorize_kept (h : a.Agreed) (context : AgentExecutionContext) (instrument : String)
    (first second : Option Int) :
    Kept a.manager (a.authorize context instrument first second).1.manager := by
  rw [manager_authorize]
  exact (obtained (h.noted _) context.leaseOwner first second).kept

lemma Agreed.authorize (h : a.Agreed) (context : AgentExecutionContext) (instrument : String)
    (first second : Option Int) : (a.authorize context instrument first second).1.Agreed := by
  refine ⟨fun key => ?_, token_le h (authorize_kept h context instrument first second)⟩
  have ho := obtained (h.noted (context.leaseKey instrument)) context.leaseOwner first second
  unfold ExecutionDecisionLeaseAuthority.authorize
  dsimp only
  generalize a.obtain _ _ first second = r at ho ⊢
  intro lease hl
  by_cases hk : key = context.leaseKey instrument
  · subst hk
    split at hl
    · -- refused: the lease is over, or it is the one that was noted before
      rename_i hf
      rw [if_pos hf]
      rcases ho.refused (by simpa using hf) with hnn | ⟨hm, ha⟩
      · rw [hnn] at hl
        cases hl
      · rw [ha]
        exact h.noted _ lease (hm ▸ hl)
    · rename_i hs
      rw [if_neg hs]
      obtain ⟨hv, hw⟩ := ho.succeeded (by simpa using hs)
      obtain rfl : (context.leaseOwner, r.2.credential) = lease :=
        Option.some.inj (hw.symm.trans hl)
      exact ⟨hv, lookup_insert _⟩
  · obtain ⟨hm, ha⟩ := ho.other key hk
    split at hl
    · rename_i hf
      rw [if_pos hf, ha]
      exact h.noted key lease (hm ▸ hl)
    · rename_i hs
      rw [if_neg hs]
      have hh : mapKey key ≠ mapKey (context.leaseKey instrument) :=
        fun h => hk (mapKey_injective h)
      rw [lookup_insert_of_ne _ hh, ha]
      exact h.noted key lease (hm ▸ hl)

lemma validate_kept (a : ExecutionDecisionLeaseAuthority) (context : AgentExecutionContext)
    (instrument : String) (reading : Option Int) :
    Kept a.manager (a.validate context instrument reading).1.manager :=
  (a.manager.validate_checks _ _ _ reading).faded.kept

lemma Agreed.validate (h : a.Agreed) (context : AgentExecutionContext) (instrument : String)
    (rd : Option Int) : (a.validate context instrument rd).1.Agreed := by
  refine ⟨fun key lease hl => ?_, token_le h (validate_kept a context instrument rd)⟩
  have hf := (a.manager.validate_checks (context.leaseKey instrument) context.leaseOwner
    context.leaseCredential rd).faded
  apply h.noted key lease
  by_cases hk : key = context.leaseKey instrument
  · subst hk
    rcases hf.lease with hnn | hs
    · cases hnn.symm.trans hl
    · exact hs.symm.trans hl
  · exact (hf.other key hk).symm.trans hl

lemma Agreed.fenceOwner (h : a.Agreed) (agentId sessionId : String) :
    (a.fenceOwner agentId sessionId).1.Agreed := by
  refine ⟨fun key lease hl => ?_, token_le h (fenceOwner_kept a.manager _)⟩
  have hl : (a.manager.fenceOwner { agentId, sessionId }).1.lease key = some lease := hl
  -- an owner that is not valid has no lease
  by_cases ho : ({ agentId, sessionId } : DecisionLeaseOwner).valid = true
  · rw [lease_fenceOwner _ ho] at hl
    obtain ⟨hb, hh⟩ := Option.filter_eq_some_iff.mp hl
    obtain ⟨hv, ht⟩ := h.noted key lease hb
    refine ⟨hv, ?_⟩
    change Finmap.lookup _ (UMap.keepValues _ a.active) = _
    rw [UMap.lookup_keepValues, ht, Option.filter_some, if_pos hh]
  · rw [DecisionLeaseManager.fenceOwner, if_pos (by simpa using ho)] at hl
    obtain ⟨hv, ht⟩ := h.noted key lease hl
    refine ⟨hv, ?_⟩
    change Finmap.lookup _ (UMap.keepValues _ a.active) = _
    rw [UMap.lookup_keepValues, ht, Option.filter_some, if_pos]
    simp only [ne_eq, decide_not, Bool.not_eq_eq_eq_not, Bool.not_true, decide_eq_false_iff_not]
    rintro hs
    exact ho (hs ▸ hv)

lemma Agreed.step (h : a.Agreed) (call : Call) : (a.step call).Agreed := by
  cases call with
  | authorize => exact h.authorize ..
  | validate => exact h.validate ..
  | fenceOwner => exact h.fenceOwner ..

lemma step_kept (h : a.Agreed) (call : Call) : Kept a.manager (a.step call).manager := by
  cases call with
  | authorize => exact authorize_kept h ..
  | validate => exact validate_kept a ..
  | fenceOwner => exact fenceOwner_kept a.manager ..

lemma Agreed.run (h : a.Agreed) (calls : List Call) : (a.run calls).Agreed := by
  induction calls generalizing a with
  | nil => exact h
  | cons call calls ih => exact ih (h.step call)

lemma run_kept (h : a.Agreed) (calls : List Call) : Kept a.manager (a.run calls).manager := by
  induction calls generalizing a with
  | nil => exact .refl _
  | cons call calls ih => exact (step_kept h call).trans (ih (h.step call))

/-! ### Grants and their ends -/

def Call.grant (a : ExecutionDecisionLeaseAuthority) : Call → Option ActiveLease
  | .authorize context instrument first second =>
    let reply := (a.authorize context instrument first second).2
    if reply.lease.status = .acquired then
      some
        { key := context.leaseKey instrument
          owner := context.leaseOwner
          credential := reply.context.leaseCredential }
    else none
  | _ => none

/-- The calls that show or make a granted lease to be over: a validation of its credential that
fails, and a fence of its owner. -/
def Call.ends (a : ExecutionDecisionLeaseAuthority) (granted : ActiveLease) : Call → Prop
  | .authorize _ _ _ _ => False
  | .validate context instrument reading =>
    context.leaseKey instrument = granted.key ∧ context.leaseOwner = granted.owner ∧
      context.leaseCredential = granted.credential ∧
      (a.validate context instrument reading).2.status ∈
        [DecisionLeaseStatus.expired, .notFound, .staleFence]
  | .fenceOwner agentId sessionId => granted.owner = { agentId, sessionId }

/-- Only the granted lease has its token. -/
structure Issued (m : DecisionLeaseManager) (granted : ActiveLease) : Prop where
  owner : granted.owner.valid = true
  token : granted.credential.fencingToken ≤ m.lastFencingToken
  generation : granted.credential.generation ≤ m.generation granted.key
  lease : ∀ key lease, m.lease key = some lease →
    lease.2.fencingToken = granted.credential.fencingToken →
      key = granted.key ∧ lease = (granted.owner, granted.credential)

lemma Issued.kept (h : Issued m granted)
    (hk : Kept m m') : Issued m' granted where
  owner := h.owner
  token := h.token.trans hk.token
  generation := h.generation.trans (hk.generation _)
  lease key lease hl htoken := by
    rcases hk.lease key lease hl with ho | ⟨hw, -⟩
    · exact h.lease key lease ho htoken
    · have := h.token
      omega

/-- A credential that is granted and in no lease. -/
structure Over (m : DecisionLeaseManager) (credential : DecisionLeaseCredential) : Prop where
  token : credential.fencingToken ≤ m.lastFencingToken
  lease : ∀ key lease, m.lease key = some lease → lease.2 ≠ credential

lemma Over.kept {cr : DecisionLeaseCredential}
    (h : Over m cr) (hk : Kept m m') : Over m' cr where
  token := h.token.trans hk.token
  lease key lease hlease := by
    rcases hk.lease key lease hlease with ho | ⟨hw, -⟩
    · exact h.lease key lease ho
    · rintro rfl
      exact absurd h.token (not_le.mpr hw)

lemma grant_spec (h : a.Agreed) (hg : call.grant a = some granted) :
    granted.credential.fencingToken = a.manager.lastFencingToken + 1 ∧ granted.credential.generation
    = a.manager.generation granted.key + 1 ∧ Issued (a.step call).manager granted := by
  cases call with
  | validate => cases hg
  | fenceOwner => cases hg
  | authorize context instrument first second =>
    have hp := authorize_kept h context instrument first second
    have ho :=
      obtained (h.noted (context.leaseKey instrument)) context.leaseOwner first second
    simp only [Call.grant] at hg
    split at hg
    · rename_i hst
      have hs : (a.authorize context instrument first second).2.lease.succeeded = true := by
        simp [DecisionLeaseResult.succeeded, hst]
      rw [leaseCredential_authorize hs, lease_authorize, Option.some.injEq] at hg
      subst hg
      rw [step]
      rw [lease_authorize] at hst hs
      rw [manager_authorize] at hp ⊢
      obtain ⟨ht, hlast, hgeneration, hw⟩ := ho.granted hst
      obtain ⟨hvalid, hl⟩ := ho.succeeded hs
      refine ⟨ht, hgeneration, hvalid, (ht.trans hlast.symm).le, hw.ge, ?_⟩
      intro key lease hm ha
      by_cases hk : key = context.leaseKey instrument
      · subst hk
        exact ⟨rfl, (Option.some.inj (hl.symm.trans hm)).symm⟩
      · -- every other lease is an old one, whose token was granted before
        have hold := h.token key lease ((ho.other key hk).1.symm.trans hm)
        have : lease.2.fencingToken = a.manager.lastFencingToken + 1 := ha.trans ht
        omega
    · cases hg

lemma over_of_ends (h : Issued a.manager granted) (hp : Kept a.manager (a.step call).manager)
    (he : call.ends a granted) : Over (a.step call).manager granted.credential := by
  have hi := h.kept hp
  refine ⟨hi.token, fun key lease hl hm => ?_⟩
  obtain ⟨rfl, rfl⟩ := hi.lease key lease hl (by rw [hm])
  cases call with
  | authorize => exact he
  | validate context instrument rd =>
    obtain ⟨hk, howner, hr, hs⟩ := he
    have hc := a.manager.validate_checks (context.leaseKey instrument) context.leaseOwner
      context.leaseCredential rd
    rw [hk, howner, hr] at hc
    simp only [validate, step, hk, howner, hr] at hl hs
    generalize a.manager.validate _ _ _ rd = r at hc hl hs
    simp only [List.mem_cons, List.not_mem_nil, or_false] at hs
    rcases hs with hs | hs | hs
    · cases (hc.ended (.inl hs)).symm.trans hl
    · cases (hc.ended (.inr hs)).symm.trans hl
    · obtain ⟨_, hh, hne⟩ := hc.stale hs
      have := Option.some.inj (hh.symm.trans hl)
      exact hne (congrArg Prod.snd this)
  | fenceOwner =>
    have hl : (a.manager.fenceOwner granted.owner).1.lease granted.key =
        some (granted.owner, granted.credential) := by
      rw [show granted.owner = _ from he] at hl ⊢
      exact hl
    rw [lease_fenceOwner _ h.owner] at hl
    obtain ⟨-, ho⟩ := Option.filter_eq_some_iff.mp hl
    simp at ho

lemma lease_of_valid {context : AgentExecutionContext} {instrument : String} {reading : Option Int}
    (h : (a.validate context instrument reading).2.valid = true) :
    a.manager.lease (context.leaseKey instrument) =
      some (context.leaseOwner, context.leaseCredential) :=
  ((a.manager.validate_checks _ _ _ reading).held h).1

lemma run_append (a : ExecutionDecisionLeaseAuthority) (front back : List Call) :
    a.run (front ++ back) = (a.run front).run back :=
  List.foldl_append

/-- **Decision leases are fenced.** At any time one owner and credential validates for a key; the
tokens of the grants increase, and so do the generations of a key; a granted credential that is
over stays over; and an authorization is refused as busy only while another owner holds a lease
that has not expired. -/
theorem decision_lease_fencing (leaseTtl : Int) :
    (∀ (calls : List Call) (context : AgentExecutionContext) (instrument : String)
        (reading : Option Int) (context' : AgentExecutionContext) (instrument' : String)
        (reading' : Option Int),
      let a := (start leaseTtl).run calls
      context.leaseKey instrument = context'.leaseKey instrument' →
      (a.validate context instrument reading).2.valid = true →
      (a.validate context' instrument' reading').2.valid = true →
      context.leaseOwner = context'.leaseOwner ∧
        context.leaseCredential = context'.leaseCredential) ∧
    (∀ (front : List Call) (call : Call) (middle : List Call) (call' : Call)
        (granted granted' : ActiveLease),
      call.grant ((start leaseTtl).run front) = some granted →
      call'.grant ((start leaseTtl).run (front ++ call :: middle)) = some granted' →
      granted.credential.fencingToken < granted'.credential.fencingToken ∧
        (granted.key = granted'.key →
          granted.credential.generation < granted'.credential.generation)) ∧
    (∀ (front : List Call) (call : Call) (middle : List Call) (ending : Call) (back : List Call)
        (granted : ActiveLease) (context : AgentExecutionContext) (instrument : String)
        (reading : Option Int),
      call.grant ((start leaseTtl).run front) = some granted →
      ending.ends ((start leaseTtl).run (front ++ call :: middle)) granted →
      context.leaseCredential = granted.credential →
      (((start leaseTtl).run (front ++ call :: middle ++ ending :: back)).validate context instrument
        reading).2.valid = false) ∧
    (∀ (calls : List Call) (context : AgentExecutionContext) (instrument : String)
        (first second : Option Int),
      let a := (start leaseTtl).run calls
      (a.authorize context instrument first second).2.reason = "EXECUTION_DECISION_LEASE_BUSY" →
      let entry := a.manager.entry (context.leaseKey instrument)
      ∃ now, first = some now ∧ entry.active = true ∧ now < entry.expiresAt ∧
        entry.owner ≠ context.leaseOwner) := by
  have ha := (agreed_start leaseTtl).run
  refine ⟨?_, ?_, ?_, ?_⟩
  · intro calls context instrument rd context' instrument' reading' a hk hv hv'
    have h := lease_of_valid hv
    rw [hk, lease_of_valid hv', Option.some.injEq, Prod.mk.injEq] at h
    exact ⟨h.1.symm, h.2.symm⟩
  · intro front call mid call' granted granted' hg hg'
    obtain ⟨-, -, hi⟩ := grant_spec (ha front) hg
    rw [run_append] at hg'
    have hp := run_kept ((ha front).step call) mid
    have hl := hi.kept hp
    obtain ⟨ht, hn, -⟩ := grant_spec (((ha front).step call).run mid) hg'
    refine ⟨?_, fun hk => ?_⟩
    · rw [ht]
      exact Nat.lt_succ_of_le hl.token
    · rw [hn, ← hk]
      exact Nat.lt_succ_of_le hl.generation
  · intro front call mid ending back granted context instrument rd hg he hc
    obtain ⟨-, -, hi⟩ := grant_spec (ha front) hg
    have hm := ((ha front).step call).run mid
    have hl := hi.kept (run_kept ((ha front).step call) mid)
    rw [run_append] at he
    have ho := over_of_ends hl (step_kept hm ending) he
    have hf := ho.kept (run_kept (hm.step ending) back)
    rw [Bool.eq_false_iff, run_append, run_append]
    intro hv
    exact hf.lease _ _ (lease_of_valid hv) hc
  · intro calls context instrument first second a hb
    have hs := reason_authorize_busy hb
    rw [lease_authorize] at hs
    exact (obtained ((ha calls).noted _) context.leaseOwner first second).busy hs

def leaseContext : AgentExecutionContext :=
  { agentId := "agent", sessionId := "session", account := "DU1", executionDomain := "paper" }

def firstLease : ActiveLease :=
  { key := leaseContext.leaseKey "ES"
    owner := leaseContext.leaseOwner
    credential := { fencingToken := 1, generation := 1 } }

/-- A granted credential fails once its owner is fenced. -/
theorem decision_lease_fencing_fenced :
    let call := Call.authorize leaseContext "ES" (some 0) none
    let fence := Call.fenceOwner "agent" "session"
    let context :=
      { leaseContext with decisionLeaseFencingToken := 1, decisionLeaseGeneration := 1 }
    call.grant (start 30000) = some firstLease ∧
      (((start 30000).run [call]).validate context "ES" (some 1)).2.valid = true ∧
      (((start 30000).run [call, fence]).validate context "ES" (some 1)).2.valid = false := by
  intro call fence context
  have hg : call.grant (start 30000) = some firstLease := by decide
  refine ⟨hg, by decide, ?_⟩
  exact (decision_lease_fencing 30000).2.2.1 [] call [] fence [] firstLease context "ES" (some 1)
    hg rfl rfl

end ExecutionDecisionLeaseAuthority

end Hepta
