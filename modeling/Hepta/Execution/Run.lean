import Hepta.Execution.Flatten
import Hepta.Execution.Fence

/-!
# Runs of the service

An action is one stretch of work under the coordinator mutex, with what the outside world
contributes to it. A thread that waits for the venue or for a cancel eligibility read comes back in
an action of its own, so a list of actions is an interleaving of the operations. A crash inside an
operation leaves the same synced records behind as the crash after that operation with its next
append failed, so it needs no action.
-/

namespace Hepta

inductive Action
  | placeOrder (command : PlaceOrderCommand) (limit : Option EntrySendAttemptLimit)
      (replies : PlaceReplies) (io : Io)
  | placeReturned (command : PlaceOrderCommand) (dispatch : PlaceOrderDispatchContext)
      (reply : VenueReply VenuePlaceResult) (completion : System.PlaceCompletion) (io : Io)
  | cancelOrder (command : CancelOrderCommand) (io : Io)
  | cancelPreflightReturned (command : CancelOrderCommand) (reply : CheckReply) (io : Io)
  | cancelReturned (command : CancelOrderCommand) (dispatch : CancelDispatchContext)
      (reply : VenueReply VenueCancelResult) (projection : CheckReply) (io : Io)
  | flattenPosition (command : FlattenPositionCommand) (plan : AuthoritativeFlattenPlan)
      (replies : FlattenReplies) (io : Io)
  | flattenReturned (command : FlattenPositionCommand) (plan : AuthoritativeFlattenPlan)
      (dispatch : AuthoritativeFlattenDispatchContext) (reply : VenueReply VenueFlattenResult)
      (projection : CheckReply) (io : Io)
  | resolveUncertainPlaceCommands (correlations : OMap String Int)
      (complete resolveMissingAsRejected : Bool) (order : List String) (io : Io)
  | resolveUncertainCancelCommands (evidence : System.CancelEvidence) (order : List String)
      (io : Io)
  | resolveUncertainCancelCommandsByCorrelation (evidence : System.CorrelationEvidence)
      (order : List String) (io : Io)
  | resolveProjectionBlock (io : Io)
  | reconcileOrderOwners (activeOrderIds : Finset Int) (complete : Bool) (order : List Int)
      (io : Io)
  | recordOrderTerminal (orderId : Int)
  | recordOrderTerminalDurably (orderId : Int) (io : Io)
  | enterAccountNewEntryFence (context : AgentExecutionContext) (io : Io)
  | fenceSessionOwner (agentId sessionId : String) (io : Io)
  | enterRecoveryOnlyOwner (agentId sessionId : String) (ingressFence : UInt64) (io : Io)
  | auditAndReleaseSessionOwnerFence (agentId sessionId : String) (complete : Bool)
      (expectedFence : UInt64) (io : Io)
  | enterPaperTerminalFenceAndProject (binding : PaperTerminalFenceBinding) (hashed : Bool)
      (io : Io)
  | beginBrokerReconnectFence
  | endBrokerReconnectFence
  /-- The writer thread, or a flush of the buffer. -/
  | flushJournal (io : AppendIo)
  | recoverFromJournal (io : RecoverIo)
  | restart (io : RecoverIo)

namespace System

variable (S : Service)

def traverses {K V : Type} [DecidableEq K] (m : UMap K V) (order : List K) : Prop :=
  order.Nodup ∧ order.toFinset = m.keys
deriving Decidable

/-- One action. A call that nobody waits for does not return, and a traversal of a map visits
its keys; an action that would break this does nothing. -/
def step (s : System) : Action → System
  | .placeOrder command limit replies io => (s.placeOrder S command limit replies io).1
  | .placeReturned command dispatch reply completion io =>
    if .place command dispatch ∈ s.dispatches then
      (s.placeReturned S command dispatch reply completion io).1
    else s
  | .cancelOrder command io => (s.cancelOrder S command io).1
  | .cancelPreflightReturned command reply io =>
    if command ∈ s.preflights then (s.cancelPreflightReturned S command reply io).1 else s
  | .cancelReturned command dispatch reply projection io =>
    if .cancel command dispatch ∈ s.dispatches then
      (s.cancelReturned S command dispatch reply projection io).1
    else s
  | .flattenPosition command plan replies io => (s.flattenPosition S command plan replies io).1
  | .flattenReturned command plan dispatch reply projection io =>
    if .flatten command plan dispatch ∈ s.dispatches then
      (s.flattenReturned S command plan dispatch reply projection io).1
    else s
  | .resolveUncertainPlaceCommands correlations complete resolveMissingAsRejected order io =>
    if traverses s.requests order then
      (s.resolveUncertainPlaceCommands S correlations complete resolveMissingAsRejected order io).1
    else s
  | .resolveUncertainCancelCommands evidence order io =>
    if traverses s.requests order then
      (s.resolveUncertainCancelCommands S evidence order io).1
    else s
  | .resolveUncertainCancelCommandsByCorrelation evidence order io =>
    if traverses s.requests order then
      (s.resolveUncertainCancelCommandsByCorrelation S evidence order io).1
    else s
  | .resolveProjectionBlock io => (s.resolveProjectionBlock S io).1
  | .reconcileOrderOwners activeOrderIds complete order io =>
    if traverses s.orderOwners order then
      (s.reconcileOrderOwners S activeOrderIds complete order io).1
    else s
  | .recordOrderTerminal orderId => s.recordOrderTerminal orderId
  | .recordOrderTerminalDurably orderId io => (s.recordOrderTerminalDurably S orderId io).1
  | .enterAccountNewEntryFence context io => (s.enterAccountNewEntryFence S context io).1
  | .fenceSessionOwner agentId sessionId io => (s.fenceSessionOwner S agentId sessionId io).1
  | .enterRecoveryOnlyOwner agentId sessionId ingressFence io =>
    (s.enterRecoveryOnlyOwner S agentId sessionId ingressFence io).1
  | .auditAndReleaseSessionOwnerFence agentId sessionId complete expectedFence io =>
    (s.auditAndReleaseSessionOwnerFence S agentId sessionId complete expectedFence io).1
  | .enterPaperTerminalFenceAndProject binding hashed io =>
    (s.enterPaperTerminalFenceAndProject S binding hashed io).1
  | .beginBrokerReconnectFence => s.beginBrokerReconnectFence.1
  | .endBrokerReconnectFence => s.endBrokerReconnectFence.1
  | .flushJournal io => s.setJournal (s.journal.flushQueued io).2
  | .recoverFromJournal io => (s.recoverFromJournal io).1
  | .restart io => (s.restart io).1

/-- A run of a service that starts with an empty journal. -/
def run (actions : List Action) : System := actions.foldl (step S) {}

/-- Every action of a run from `s` starts in a state that meets the condition. -/
def meets (condition : System → Action → Prop) : System → List Action → Prop
  | _, []                => True
  | s, action :: actions => condition s action ∧ meets condition (s.step S action) actions

instance (condition : System → Action → Prop) [∀ s action, Decidable (condition s action)] :
    ∀ (s : System) (actions : List Action), Decidable (meets S condition s actions)
  | _, []                => .isTrue trivial
  | s, action :: actions =>
    have := instDecidableMeets condition (s.step S action) actions
    inferInstanceAs (Decidable (condition s action ∧ meets S condition (s.step S action) actions))

end System

/-- A call of the coordinator: an action of the service, or the reset that the coordinator offers
and the service never uses. -/
inductive Call
  | act (action : Action)
  | resetMutationBlockAfterReconcile

namespace System

variable (S : Service)

def call (s : System) : Call → System
  | .act action => s.step S action
  | .resetMutationBlockAfterReconcile => s.resetMutationBlockAfterReconcile

/-- A run of calls of a service that starts with an empty journal. -/
def callRun (calls : List Call) : System := calls.foldl (call S) {}

def onActions (condition : System → Action → Prop) (s : System) : Call → Prop
  | .act action => condition s action
  | .resetMutationBlockAfterReconcile => True

/-- Every call of a run from `s` starts in a state that meets the condition. -/
def callsMeet (condition : System → Call → Prop) : System → List Call → Prop
  | _, []            => True
  | s, call :: calls => condition s call ∧ callsMeet condition (s.call S call) calls

instance (condition : System → Call → Prop) [∀ s call, Decidable (condition s call)] :
    ∀ (s : System) (calls : List Call), Decidable (callsMeet S condition s calls)
  | _, []            => .isTrue trivial
  | s, call :: calls =>
    have := instDecidableCallsMeet condition (s.call S call) calls
    inferInstanceAs (Decidable (condition s call ∧ callsMeet S condition (s.call S call) calls))

end System

/-- Every write and every read of the journal during the action goes through. -/
def Action.clean : Action → Prop
  | .placeOrder _ _ _ io | .placeReturned _ _ _ _ io | .cancelOrder _ io
  | .cancelPreflightReturned _ _ io | .cancelReturned _ _ _ _ io | .flattenPosition _ _ _ io
  | .flattenReturned _ _ _ _ _ io | .resolveUncertainPlaceCommands _ _ _ _ io
  | .resolveUncertainCancelCommands _ _ io | .resolveUncertainCancelCommandsByCorrelation _ _ io
  | .resolveProjectionBlock io | .reconcileOrderOwners _ _ _ io
  | .recordOrderTerminalDurably _ io | .enterAccountNewEntryFence _ io
  | .fenceSessionOwner _ _ io | .enterRecoveryOnlyOwner _ _ _ io
  | .auditAndReleaseSessionOwnerFence _ _ _ _ io
  | .enterPaperTerminalFenceAndProject _ _ io => io.clean
  | .recordOrderTerminal _ | .beginBrokerReconnectFence | .endBrokerReconnectFence => True
  | .flushJournal io => io.clean
  | .recoverFromJournal io | .restart io => io = {}

lemma Io.clean_default : ({} : Io).clean := fun _ => ⟨rfl, rfl, rfl, rfl⟩

namespace System

variable {S : Service} {condition : System → Call → Prop} {s : System}

lemma run_append (acts : List Action) (action : Action) :
    run S (acts ++ [action]) = (run S acts).step S action := by
  simp [run]

lemma meets_trivial (s : System) (actions : List Action) : meets S (fun _ _ => True) s actions := by
  induction actions generalizing s with
  | nil => trivial
  | cons a actions ih => exact ⟨trivial, ih _⟩

lemma meets.imp {P Q : System → Action → Prop} {actions : List Action} (h : meets S P s actions)
    (hi : ∀ s, ∀ action ∈ actions, P s action → Q s action) : meets S Q s actions := by
  induction actions generalizing s with
  | nil => trivial
  | cons action actions ih =>
    exact ⟨hi s action List.mem_cons_self h.1,
      ih h.2 fun s action' hm => hi s action' (List.mem_cons_of_mem _ hm)⟩

lemma callsMeet_append {bf after : List Call} (h : callsMeet S condition s (bf ++ after)) :
    callsMeet S condition s bf ∧ callsMeet S condition (bf.foldl (call S) s) after := by
  induction bf generalizing s with
  | nil => exact ⟨trivial, h⟩
  | cons call bf ih =>
    obtain ⟨hb, ha⟩ := ih h.2
    exact ⟨⟨h.1, hb⟩, ha⟩

lemma calls_induction {P : System → Prop}
    (kept : ∀ s call, P s → condition s call → P (s.call S call)) {calls : List Call}
    (h : P s) (hm : callsMeet S condition s calls) : P (calls.foldl (call S) s) := by
  induction calls generalizing s with
  | nil => exact h
  | cons call calls ih => exact ih (kept s call h hm.1) hm.2

end System

/-! ### A small service

A service whose venue submits at once and whose digest is the text itself, with the commands that
the runs below it are made of. -/

def sampleService : Service where
  callbacks := { placement := .immediate, cancelOrder := true, onIbCancelSent := true }
  sha256 := id
  formatDouble _ := "0"

def sampleContext (toolCallId : String) : AgentExecutionContext :=
  { agentId := "agent", sessionId := "session", toolCallId := toolCallId, account := "account" }

/-- Buy one contract. -/
def samplePlacement (toolCallId : String) : PlaceOrderCommand :=
  { context := sampleContext toolCallId
    contract := { symbol := "ES" }
    order := { action := "BUY", totalQuantity := ⟨0x3ff0000000000000⟩ } }

def samplePlaced (toolCallId : String) (reply : VenueReply VenuePlaceResult) : Action :=
  .placeReturned (samplePlacement toolCallId)
    (System.placeDispatch sampleService (samplePlacement toolCallId) 0) reply {} {}

end Hepta
