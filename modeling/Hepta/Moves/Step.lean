import Hepta.Moves.Place
import Hepta.Moves.Cancel
import Hepta.Moves.Flatten
import Hepta.Moves.Resolve
import Hepta.Moves.Control
import Hepta.Moves.Coherent

/-!
# Actions are sequences of moves

Every action of a run makes moves only, so what the moves keep holds in every run.
-/

namespace Hepta

open OmsJournal

def Action.isFence : Action → Bool
  | .enterAccountNewEntryFence .. | .fenceSessionOwner .. | .enterRecoveryOnlyOwner ..
  | .auditAndReleaseSessionOwnerFence .. | .enterPaperTerminalFenceAndProject .. => true
  | _ => false

/-- The recovery of a process or of its successor. -/
def Action.isRecovery : Action → Bool
  | .recoverFromJournal .. | .restart .. => true
  | _ => false

/-- The venue call that an action may make. -/
def Action.venueOperation : Action → Option Operation
  | .placeOrder ..                              => some .place
  | .cancelOrder .. | .cancelPreflightReturned .. => some .cancel
  | .flattenPosition ..                         => some .flatten
  | _                                           => none

/-- The class of runs that `A` describes may take the action in this state. -/
structure Allowance.Permits (A : Allowance) (s : System) (action : Action) : Prop where
  clean : A.fault ∨ action.clean
  reuse : A.reuse ∨ ∀ evidence order io,
    action = .resolveUncertainCancelCommandsByCorrelation evidence order io →
      s.correlationsHold evidence
  forget : A.forget ∨ ∀ orderId, action ≠ .recordOrderTerminal orderId
  fence : A.fence ∨ action.isFence = false
  recover : A.recover ∨ action.isRecovery = false
  reconnect : A.reconnect ∨ action ≠ .endBrokerReconnectFence
  call : ∀ operation, action.venueOperation = some operation → A.call operation
  lift : ∀ io, action = .resolveProjectionBlock io → A.lift s

namespace System

variable {S : Service} {A : Allowance} {s : System}

/-- An action makes the moves of its operation. -/
theorem step_moves (h : Coherent S s) (hi : Intact A s) {a : Action}
    (hpr : A.Permits s a) : Moves S A s (s.step S a) := by
  -- every append of the action meets a usable writer and a file that takes it, or may fail
  have hs : ∀ {io : Io}, (A.fault ∨ io.clean) → ∀ n, Sound A s.journal (io.file n) := by
    intro io ho n
    rcases hi with hl | hps
    · exact .inl hl
    · exact ho.imp_right fun ho => ⟨hps, ho n⟩
  have hc := hpr.clean
  have hf : a.isFence = true → A.fence := fun h =>
    hpr.fence.resolve_right (by simp [h])
  have hr : a.isRecovery = true → A.recover := fun h =>
    hpr.recover.resolve_right (by simp [h])
  cases a with
  | placeOrder c lim reps =>
    exact (placeOrder_move h (hpr.call _ rfl) (hs hc) lim reps).to_reflTransGen
  | placeReturned c d reply cmp =>
    simp only [step]
    split_ifs with hm
    · exact .single (placeReturned_move h hm (hs hc) reply cmp)
    · exact .refl
  | cancelOrder => exact cancelOrder_moves h (hpr.call _ rfl) (hs hc)
  | cancelPreflightReturned c reply =>
    simp only [step]
    split_ifs with hm
    · exact cancelPreflightReturned_moves h hm (hpr.call _ rfl) (hs hc) reply
    · exact .refl
  | cancelReturned c d reply projection =>
    simp only [step]
    split_ifs with hm
    · exact .single (cancelReturned_move h hm (hs hc) reply projection)
    · exact .refl
  | flattenPosition => exact flattenPosition_moves h (hpr.call _ rfl) (hs hc) ..
  | flattenReturned c plan d reply projection =>
    simp only [step]
    split_ifs with hm
    · exact .single (flattenReturned_move h hm (hs hc) reply projection)
    · exact .refl
  | resolveUncertainPlaceCommands =>
    simp only [step]
    split_ifs
    · exact resolveUncertainPlaceCommands_moves h (hs hc) _ _ _ _
    · exact .refl
  | resolveUncertainCancelCommands =>
    simp only [step]
    split_ifs
    · exact resolveUncertainCancelCommands_moves h (hs hc) _ _
    · exact .refl
  | resolveUncertainCancelCommandsByCorrelation =>
    simp only [step]
    split_ifs
    · exact resolveUncertainCancelCommandsByCorrelation_moves h (hs hc)
        (hpr.reuse.imp_right fun h => h _ _ _ rfl) _
    · exact .refl
  | resolveProjectionBlock io =>
    exact resolveProjectionBlock_moves h (hs hc) (hpr.lift io rfl)
  | reconcileOrderOwners =>
    simp only [step]
    split_ifs
    · exact reconcileOrderOwners_moves h (hs hc) _ _ _
    · exact .refl
  | recordOrderTerminal orderId =>
    exact .single (.forgot (hpr.forget.resolve_right fun h => h orderId rfl) orderId)
  | recordOrderTerminalDurably => exact recordOrderTerminalDurably_moves h (hs hc) ..
  | enterAccountNewEntryFence context =>
    exact enterAccountNewEntryFence_moves h (hf rfl) (hs hc) context
  | fenceSessionOwner => exact fenceSessionOwner_moves h (hf rfl) (hs hc) ..
  | enterRecoveryOnlyOwner => exact enterRecoveryOnlyOwner_moves h (hf rfl) (hs hc) ..
  | auditAndReleaseSessionOwnerFence agentId sessionId =>
    exact auditAndReleaseSessionOwnerFence_moves h (hf rfl) (hs hc) agentId sessionId _ _
  | enterPaperTerminalFenceAndProject binding hashed =>
    exact enterPaperTerminalFenceAndProject_moves h (hf rfl) (hs hc) binding hashed
  | beginBrokerReconnectFence => exact beginBrokerReconnectFence_moves s
  | endBrokerReconnectFence =>
    exact endBrokerReconnectFence_moves s (hpr.reconnect.resolve_right fun h => h rfl)
  | flushJournal io =>
    refine .single (.flushed (flushQueued_quiet s.journal io) (flushQueued_ordered h.ordered io) ?_
      fun hp => flushQueued_poisoned hp io)
    rcases hi with hl | hps
    · exact .inl hl
    · exact hc.imp_right fun ho => (flushQueued_clean hps ho.2.2.1).2
  | recoverFromJournal =>
    refine recoverFromJournal_moves h (hr rfl) ?_
    rcases hi with hl | hps
    · exact .inl hl
    · exact hc.imp_right fun ho => ⟨hps, ho⟩
  | restart => exact restart_moves s (hr rfl) hc

lemma coherent_start : Coherent S ({} : System) := by
  refine ⟨⟨afterCrash_ordered {}, ?_, ?_, ?_, ?_⟩, rfl, ?_, ?_, ?_⟩ <;>
    simp [OmsJournal.records, OmsJournal.written, OmsJournal.pending]

/-- What holds at the start and is kept by every move holds in every permitted run. -/
theorem run_invariant {P : System → Prop} (start : P {})
    (kept : ∀ {s s' : System}, Coherent S s → Intact A s → P s → Move S A s s' → P s')
    {acts : List Action} (hp : meets S A.Permits {} acts) :
    Coherent S (run S acts) ∧ Intact A (run S acts) ∧ P (run S acts) := by
  have hst : ∀ s : System, Coherent S s ∧ Intact A s ∧ P s →
      ∀ s', Moves S A s s' → Coherent S s' ∧ Intact A s' ∧ P s' := by
    intro s hs s' hv
    induction hv with
    | refl => exact hs
    | tail _ hm ih => exact ⟨hm.coherent ih.1, hm.intact ih.2.1, kept ih.1 ih.2.1 ih.2.2 hm⟩
  have hr : ∀ (acts : List Action) (s : System), Coherent S s ∧ Intact A s ∧ P s →
      meets S A.Permits s acts →
      Coherent S (acts.foldl (step S) s) ∧ Intact A (acts.foldl (step S) s) ∧
        P (acts.foldl (step S) s) := by
    intro acts
    induction acts with
    | nil => exact fun _ hs _ => hs
    | cons a acts ih =>
      intro s hs ht
      exact ih _ (hst s hs _ (step_moves hs.1 hs.2.1 ht.1)) ht.2
  exact hr acts {} ⟨coherent_start, .inr rfl, start⟩ hp

end System

/-- Runs without any restriction. -/
def unrestricted : Allowance where
  fault := True
  reuse := True
  forget := True
  fence := True
  recover := True
  reconnect := True
  call _ := True
  lift _ := True

open Hepta.System

variable {S : Service} {A : Allowance} {s s' : System}

lemma System.permits_unrestricted (s : System) (action : Action) : unrestricted.Permits s action :=
  ⟨.inl trivial, .inl trivial, .inl trivial, .inl trivial, .inl trivial, .inl trivial,
    fun _ _ => trivial, fun _ _ => trivial⟩

lemma System.meets_unrestricted (S : Service) (s : System) (actions : List Action) :
    System.meets S unrestricted.Permits s actions :=
  (System.meets_trivial s actions).imp fun _ _ _ _ => System.permits_unrestricted _ _

lemma Moves.coherent (h : Coherent S s) (hm : Moves S A s s') : Coherent S s' := by
  induction hm with
  | refl => exact h
  | tail _ hv ih => exact hv.coherent ih

lemma Coherent.reset (h : Coherent S s) : Coherent S s.resetMutationBlockAfterReconcile := by
  unfold resetMutationBlockAfterReconcile
  split_ifs
  · exact h
  · exact ⟨⟨h.ordered, h.keyed, h.owned, h.named, h.indexed⟩, h.inFlight, h.pending,
      h.distinct, h.preflights⟩

end Hepta
