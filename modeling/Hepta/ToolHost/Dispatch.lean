import Hepta.Library.Guarded
import Hepta.ToolHost.Registered

/-!
# Tool calls and the registration they are dispatched under

A tool call is authorized under the mutex of the sessions only, and dispatched later under the
dispatch mutex, which every change of a session takes too. A mutation keeps it until the tool
returns; an event wait gives it back and looks at the session again. Here any number of such calls
interleave with the calls of the host and with the clock.
-/

namespace Hepta

/-- A tool call that `AuthorizeCommon` let pass, with the binding it read. -/
structure AuthorizedCall where
  tool : Bytes
  token : Bytes
  binding : TradingToolHostSessionBinding
  /-- The registration that the binding was read from. -/
  incarnation : Option ℕ

/-- A mutation inside `m_registry.Invoke`, since the given time. -/
structure RunningMutation where
  call : AuthorizedCall
  enteredAtMs : ℕ

/-- An event wait, with the registration that `DispatchRead` took for it. -/
structure EventWait where
  call : AuthorizedCall
  incarnation : ℕ

structure ToolDispatch where
  host : TradingToolHost := {}
  nowMs : ℕ := 0
  authorized : List AuthorizedCall := []
  /-- The mutation that holds the dispatch mutex. -/
  running : Option RunningMutation := none
  waits : List EventWait := []

namespace ToolDispatch

open TradingToolHost

inductive Action where
  | tick (ms : ℕ)
  | host (call : TradingToolHost.Call)
  | authorize (env : ToolEnv) (request : ToolRequest)
  /-- The `index`-th authorized call is dispatched; the replays and the rate limit admit it or not. -/
  | dispatchMutation (index : ℕ) (admitted : Bool)
  | returnMutation
  | dispatchRead (index : ℕ)
  /-- The `index`-th event wait ends. -/
  | returnWait (index : ℕ)

variable (s : ToolDispatch)

def endCall (index : ℕ) : ToolDispatch := { s with authorized := s.authorized.eraseIdx index }

def step : Action → ToolDispatch
  | .tick ms => { s with nowMs := s.nowMs + ms }
  | .host call => if s.running.isSome then s else { s with host := s.host.step call }
  | .authorize env request =>
    match s.host.authorizeCommon env request fun _ => none with
    -- an expired session is revoked by a call of its own
    | (.error _, _) => s
    | (.ok binding, _) =>
      let call : AuthorizedCall :=
        { tool := request.tool
          token := request.sessionToken
          binding
          incarnation := s.host.sessionIncarnations.lookup request.sessionToken }
      { s with authorized := s.authorized ++ [call] }
  | .dispatchMutation index admitted =>
    match s.running, s.authorized[index]? with
    | none, some call =>
      let ended := s.endCall index
      if s.host.dispatchMutation s.nowMs call.tool call.token call.binding = none ∧ admitted then
        { ended with running := some { call, enteredAtMs := s.nowMs } }
      else ended
    | _, _ => s
  | .returnMutation => { s with running := none }
  | .dispatchRead index =>
    match s.running, s.authorized[index]? with
    | none, some call =>
      let ended := s.endCall index
      match s.host.dispatchRead s.nowMs call.tool call.token call.binding with
      | .ok (some incarnation) => { ended with waits := s.waits ++ [{ call, incarnation }] }
      | _ => ended
    | _, _ => s
  | .returnWait index => { s with waits := s.waits.eraseIdx index }

/-- The event wait gives its result to the agent if it ends now. -/
def Returns (w : EventWait) : Prop :=
  s.host.recheckEventWait s.nowMs w.call.token w.call.binding w.incarnation = none

/-- The registration of the call is the one registered for its token, and it is enabled, not fenced
and not held by a WATCH transaction. -/
def InForce (call : AuthorizedCall) (b : TradingToolHostSessionBinding) : Prop :=
  s.host.sessions.lookup call.token = some b ∧
    (∃ incarnation, call.incarnation = some incarnation ∧
      s.host.sessionIncarnations.lookup call.token = some incarnation) ∧
    b.enabled = true ∧ b.sessionOwnerKey ∉ s.host.pendingOwnerFences ∧
    s.host.watchTransactionPending b = false

/-- A mutation runs only under the registration it was authorized for, and an event wait returns only
under it. -/
structure Exact : Prop where
  mutation : ∀ r, s.running = some r → ∃ b, s.InForce r.call b ∧ r.enteredAtMs < b.expiresAtMs ∧
    (r.call.tool = ascii "trade.place_order" → b.recoveryOnly = false)
  wait : ∀ w ∈ s.waits, s.Returns w → ∃ b, s.InForce w.call b ∧ s.nowMs < b.expiresAtMs

/-- No call registers a token with the generation that a call in flight was authorized for. -/
def NotReused : Action → Prop
  | .host call => ∀ a ∈ s.authorized, ¬ Registers a.token a.binding.leaseGeneration call
  | _ => True

/-! ### The checks -/

section Checks

variable {h : TradingToolHost} {nowMs incarnation : ℕ} {tool token : Bytes}
  {binding : TradingToolHostSessionBinding}

/-- A session that a dispatch lets pass. -/
structure Passes (h : TradingToolHost) (nowMs : ℕ) (token : Bytes)
    (binding b : TradingToolHostSessionBinding) : Prop where
  registered : h.sessions.lookup token = some b
  generation : b.leaseGeneration = binding.leaseGeneration
  enabled : b.enabled = true
  unfenced : b.sessionOwnerKey ∉ h.pendingOwnerFences
  unreserved : h.watchTransactionPending b = false
  unexpired : nowMs < b.expiresAtMs

lemma dispatchMutation_ok (ho : h.dispatchMutation nowMs tool token binding = none) :
    ∃ b, Passes h nowMs token binding b ∧
      (tool = ascii "trade.place_order" → b.recoveryOnly = false) := by
  simp only [dispatchMutation] at ho
  split at ho
  · cases ho
  rename_i b hb
  split_ifs at ho with hg hf hr he
  simp only [not_or, Bool.not_eq_true, Bool.not_eq_eq_eq_not, Bool.not_true, not_and] at hf hr
  obtain ⟨hon, hu, hun⟩ := hf
  refine ⟨b, ⟨hb, not_not.mp hg, by simpa using hon, hu, hun,
    Nat.lt_of_not_le he⟩, ?_⟩
  intro ht
  by_contra hon
  exact hr (by simpa using hon) ht

lemma dispatchRead_ok
    (ho : h.dispatchRead nowMs tool token binding = .ok (some incarnation)) :
    ∃ b, Passes h nowMs token binding b ∧
      h.sessionIncarnations.lookup token = some incarnation := by
  simp only [dispatchRead] at ho
  split at ho
  · cases ho
  rename_i b hb
  split at ho
  · cases ho
  rename_i hg
  split at ho
  · cases ho
  rename_i hf
  split at ho
  · cases ho
  rename_i he
  simp only [not_or, Bool.not_eq_true, Bool.not_eq_eq_eq_not, Bool.not_true] at hf
  obtain ⟨hon, hu, hun⟩ := hf
  refine ⟨b, ⟨hb, not_not.mp hg, by simpa using hon, hu, hun,
    Nat.lt_of_not_le he⟩, ?_⟩
  -- only an event wait is given a registration
  split at ho
  · split at ho
    · cases ho
    rename_i hi
    split at ho
    · cases ho
    · cases ho
      exact hi
  · split at ho <;> cases ho

lemma recheckEventWait_ok
    (ho : h.recheckEventWait nowMs token binding incarnation = none) :
    ∃ b, Passes h nowMs token binding b ∧
      h.sessionIncarnations.lookup token = some incarnation := by
  simp only [recheckEventWait] at ho
  split at ho
  · cases ho
  rename_i b hb
  split_ifs at ho with hg hbn hf he
  simp only [not_or, not_not, Bool.not_eq_true, Bool.not_eq_eq_eq_not, Bool.not_true] at hf hbn
  obtain ⟨hon, hu, hun⟩ := hf
  exact ⟨b, ⟨hb, not_not.mp hg, by simpa using hon, hu, hun,
    Nat.lt_of_not_le he⟩, hbn.1⟩

end Checks

/-! ### Runs -/

variable {s} {a : AuthorizedCall}

/-- An enabled session with the token and the generation of the call is the registration that the
call was authorized for. -/
def Pinned (h : TradingToolHost) (call : AuthorizedCall) : Prop :=
  ∀ b, h.sessions.lookup call.token = some b → b.enabled = true →
    b.leaseGeneration = call.binding.leaseGeneration →
    h.sessionIncarnations.lookup call.token = call.incarnation

lemma Pinned.step {h : TradingToolHost} {call : TradingToolHost.Call} (hp : Pinned h a)
    (hc : ¬ Registers a.token a.binding.leaseGeneration call) : Pinned (h.step call) a := by
  intro b' hb' ho' hg'
  obtain ⟨b, hb, ho, hg, hi⟩ | hnew := registered_step h call a.token b' hb' ho'
  · exact hi.trans (hp b hb ho (hg.trans hg'))
  · exact absurd (hg' ▸ hnew) hc

lemma Pinned.inForce {b : TradingToolHostSessionBinding} (hpn : Pinned s.host a)
    (hp : Passes s.host s.nowMs a.token a.binding b) : s.InForce a b := by
  have hi := hpn b hp.registered hp.enabled hp.generation
  obtain ⟨incarnation, hl⟩ :=
    Option.isSome_iff_exists.mp (s.host.incarnated a.token b hp.registered)
  exact ⟨hp.registered, ⟨incarnation, hi ▸ hl, hl⟩, hp.enabled, hp.unfenced, hp.unreserved⟩

structure Invariant (s : ToolDispatch) : Prop where
  pinned : ∀ a ∈ s.authorized, Pinned s.host a
  waits : ∀ w ∈ s.waits, w.call.incarnation = some w.incarnation
  running : ∀ r, s.running = some r → ∃ b, s.InForce r.call b ∧ r.enteredAtMs < b.expiresAtMs ∧
    (r.call.tool = ascii "trade.place_order" → b.recoveryOnly = false)

lemma Invariant.exact (hs : s.Invariant) : s.Exact := by
  refine ⟨hs.running, ?_⟩
  intro w hw hr
  obtain ⟨b, hp, hi⟩ := recheckEventWait_ok hr
  exact ⟨b, ⟨hp.registered, ⟨w.incarnation, hs.waits w hw, hi⟩, hp.enabled,
    hp.unfenced, hp.unreserved⟩, hp.unexpired⟩

lemma Invariant.endCall (hs : s.Invariant) (index : ℕ) : (s.endCall index).Invariant :=
  ⟨fun a ha => hs.pinned a (List.mem_of_mem_eraseIdx ha), hs.waits, hs.running⟩

lemma Invariant.step (hs : s.Invariant) (an : Action) (ho : s.NotReused an) :
    (s.step an).Invariant := by
  cases an with
  | tick => exact ⟨hs.pinned, hs.waits, hs.running⟩
  | host call =>
    simp only [ToolDispatch.step]
    split
    · exact hs
    rename_i hf
    refine ⟨fun a ha => (hs.pinned a ha).step (ho a ha), hs.waits, ?_⟩
    -- the dispatch mutex is free, so that no mutation runs
    intro r hr
    simp only at hr
    simp [hr] at hf
  | authorize =>
    simp only [ToolDispatch.step]
    split
    · exact hs
    refine ⟨?_, hs.waits, hs.running⟩
    intro a ha
    rcases List.mem_append.mp ha with ha | ha
    · exact hs.pinned a ha
    · rw [List.mem_singleton.mp ha]
      intro b _ _ _
      rfl
  | dispatchMutation ix admitted =>
    simp only [ToolDispatch.step]
    split
    · rename_i call hf hc
      have he := hs.endCall ix
      split
      · rename_i hd
        refine ⟨he.pinned, he.waits, ?_⟩
        intro r hr
        obtain rfl := Option.some.inj hr
        obtain ⟨b, hp, hrc⟩ := dispatchMutation_ok hd.1
        exact ⟨b, (hs.pinned call (List.mem_of_getElem? hc)).inForce hp, hp.unexpired, hrc⟩
      · exact he
    · exact hs
  | returnMutation =>
    refine ⟨hs.pinned, hs.waits, ?_⟩
    intro r hr
    cases hr
  | dispatchRead ix =>
    simp only [ToolDispatch.step]
    split
    · rename_i call hf hc
      have he := hs.endCall ix
      split
      · rename_i incarnation hrd
        refine ⟨he.pinned, ?_, he.running⟩
        intro w hw
        rcases List.mem_append.mp hw with hw | hw
        · exact hs.waits w hw
        rw [List.mem_singleton.mp hw]
        obtain ⟨b, hp, hi⟩ := dispatchRead_ok hrd
        have hpn := hs.pinned call (List.mem_of_getElem? hc) b hp.registered
          hp.enabled hp.generation
        exact hpn.symm.trans hi
      · exact he
    · exact hs
  | returnWait =>
    exact ⟨hs.pinned, fun w hw => hs.waits w (List.mem_of_mem_eraseIdx hw), hs.running⟩

/-- In every interleaving in which no token is registered again with the generation of a call in
flight, a mutation runs under the registration it was authorized for, and an event wait returns under
it. -/
theorem exact_of_notReused (host : TradingToolHost) (nowMs : ℕ) {actions : List Action}
    (hrun : Guarded.Run step NotReused { host, nowMs } actions) :
    (actions.foldl step { host, nowMs }).Exact := by
  have ht : ({ host, nowMs } : ToolDispatch).Invariant :=
    ⟨by simp, by simp, by simp⟩
  exact (hrun.invariant ht fun s an hs ho => hs.step an ho).exact

/-- A registration of a PAPER session that may place orders. -/
def placer (agentId : String) : TradingToolHostSessionBinding where
  token := ascii "token-0123456789-0123456789"
  environment := .paper
  agentId := ascii agentId
  sessionId := ascii "session"
  account := ascii "DU1"
  executionDomain := ascii "paper"
  capabilities := {ascii "trade.place"}
  expiresAtMs := 100

def register (agentId : String) : Action :=
  .host (.registerSession { nowMs := 0 } (placer agentId) none)

def authorizePlace : Action :=
  .authorize { nowMs := 0, trade := true, requiredCapability := ascii "trade.place" }
    { peerUid := 0
      sessionToken := ascii "token-0123456789-0123456789"
      toolCallId := ascii "call"
      tool := ascii "trade.place_order" }

theorem exact_of_notReused_placed :
    ([register "alpha", authorizePlace, .tick 5, .dispatchMutation 0 true].foldl step {}).Exact ∧
      ([register "alpha", authorizePlace, .tick 5, .dispatchMutation 0 true].foldl step
        {}).running.isSome := by
  refine ⟨exact_of_notReused {} 0 ⟨?_, trivial, trivial, trivial, trivial⟩, by decide⟩
  intro a ha
  cases ha

/-- The token is revoked and registered again for another agent, with the same generation, between the
authorization and the dispatch: the mutation of the first agent runs under the second registration. -/
theorem not_exact_reused :
    let s := [register "alpha", authorizePlace,
      .host (.revokeSession (placer "alpha").token 1 fun _ => none), register "beta",
      .dispatchMutation 0 true].foldl step {}
    s.running.map (·.call.incarnation) = some (some 0) ∧
      s.running.map (·.call.binding.agentId) = some (ascii "alpha") ∧
      s.host.sessionIncarnations.lookup (placer "alpha").token = some 1 ∧
      (s.host.sessions.lookup (placer "alpha").token).map (·.agentId) = some (ascii "beta") := by
  decide

end ToolDispatch

end Hepta
