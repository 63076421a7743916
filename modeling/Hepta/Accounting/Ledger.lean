import Hepta.Accounting.Replay

/-!
# Records that the ledger does without

A cached ledger of a period is used again when nothing was added but records that `ledger_noop`
picks: no pass of `replay` reads such a record. This holds for whatever is made of the books in the
end, so for every entry of the dictionary that `replay` returns.
-/

namespace Hepta

namespace Pnl

open List Checked

variable (scope : PnlScope)

/-- A status without a contract, with its command. -/
def subjectlessStatus (scope : BrokerScope) (e : PnlEvent) : Option (Sent × PnlEvent) :=
  match readBroker scope e with
  | .ok (.subjectless sent) => some (sent, e)
  | _ => none

/-- `replay` up to the dictionary, which is put together from the books, their settlement and the
statuses that an execution had to vouch for. -/
def replayWith {β : Type} (render : Books → Settlement → List (Sent × PnlEvent) → β)
    (events : List PnlEvent) : Except PnlError β := do
  let broker ← brokerScope scope events
  let books ← readBooks broker events
  let settlement ← settleAll broker.toPnlScope books
  .ok (render books settlement (events.filterMap (subjectlessStatus broker)))

lemma replay_eq_replayWith (events : List PnlEvent) :
    replay scope events =
      replayWith scope (fun books settlement _ => resultOf books settlement) events := rfl

/-! ### Records that no pass reads -/

/-- A record of the journal, with the name of its kind. -/
structure LedgerRecord where
  event : String
  fields : PnlEvent

def kindOf : String → PnlKind
  | "order_intent" => .orderIntent
  | "flatten_intent" => .flattenIntent
  | "place_sent" => .placeSent
  | "flatten_sent" => .flattenSent
  | "reject" => .reject
  | "broker_execution" => .brokerExecution
  | "broker_order_status" => .brokerOrderStatus
  | "broker_commission" => .brokerCommission
  | "broker_error" => .brokerError
  | "broker_completed_order" => .brokerCompletedOrder
  | "order_owner_reconciled_terminal" => .orderOwnerReconciledTerminal
  | _ => .other

def LedgerRecord.read (r : LedgerRecord) : PnlEvent := { r.fields with event := kindOf r.event }

def ledgerNoop (r : LedgerRecord) : Bool :=
  blank r.fields.brokerExecutionId &&
    (r.event = "broker_completed_orders_end" || r.event = "broker_execution_details_end" ||
      r.event = "broker_error" && r.fields.riskCode.any (· ≠ "IB_ERROR_202"))

/-- Neither a command nor a callback, a cancellation or a completed order. -/
def Idle (e : PnlEvent) : Prop :=
  e.event = .other ∨ e.event = .brokerError ∧ e.riskCode ≠ some "IB_ERROR_202"

instance : DecidablePred Idle := fun e => by
  unfold Idle
  infer_instance

lemma idle_of_ledgerNoop {r : LedgerRecord} (h : ledgerNoop r = true) : Idle r.read := by
  simp only [ledgerNoop, Bool.and_eq_true, Bool.or_eq_true, decide_eq_true_eq] at h
  rcases h.2 with (hk | hk) | ⟨hk, hr⟩
  · left
    simp [LedgerRecord.read, hk, kindOf]
  · left
    simp [LedgerRecord.read, hk, kindOf]
  · right
    refine ⟨by simp [LedgerRecord.read, hk, kindOf], ?_⟩
    intro hc
    simp only [LedgerRecord.read] at hc
    simp [hc] at hr

namespace Idle

variable {scope : PnlScope} {fills : FillTable} {e : PnlEvent} (h : Idle e)

include h

lemma commandKind_eq_none : commandKind e.event = none := by
  rcases h with h | ⟨h, -⟩ <;> rw [h] <;> rfl

lemma event_ne {kind : PnlKind} (ho : kind ≠ .other) (he : kind ≠ .brokerError) :
    e.event ≠ kind := by
  rcases h with h | ⟨h, -⟩
  · exact h ▸ ho.symm
  · exact h ▸ he.symm

lemma readCommand : readCommand scope e = .ok none := by
  rw [Pnl.readCommand, h.commandKind_eq_none]
  cases owns scope e <;> rfl

lemma oldExecutionId : oldExecutionId scope e = none := by
  simp [Pnl.oldExecutionId, h.event_ne]

lemma oldCorrelation : oldCorrelation scope e = none := by
  simp [Pnl.oldCorrelation, h.commandKind_eq_none]

lemma readBroker {broker : BrokerScope} : readBroker broker e = .ok .pass := by
  simp [Pnl.readBroker, h.event_ne]

lemma collides : collides scope fills e = false := by
  simp [Pnl.collides, h.event_ne]

lemma unvouched {broker : BrokerScope} : unvouched broker fills e = false := by
  simp [Pnl.unvouched, h.readBroker]

lemma subjectlessStatus {broker : BrokerScope} : subjectlessStatus broker e = none := by
  rw [Pnl.subjectlessStatus, h.readBroker]

lemma feeOf : feeOf scope fills e = none := by
  simp [Pnl.feeOf, h.event_ne]

lemma readCancel {sent : List Sent} : readCancel scope sent e = .ok none := by
  rw [Pnl.readCancel, if_pos]
  rcases h with h | ⟨-, h⟩
  · left
    simp [h]
  · exact .inr h

lemma readTerminal {sent : List Sent} : readTerminal scope sent e = .ok .pass := by
  unfold Pnl.readTerminal
  split
  · rfl
  · simp [h.event_ne]

end Idle

/-! ### Passes over fewer records -/

section Passes

variable {scope : PnlScope} {broker : BrokerScope} {p : PnlEvent → Bool} {events : List PnlEvent}

lemma filterMap_idle {β : Type} {f : PnlEvent → Option β} (hf : ∀ e, p e = false → f e = none) :
    (events.filter p).filterMap f = events.filterMap f := by
  rw [filterMap_filter]
  congr 1
  funext e
  cases he : p e <;> simp [hf, he]

lemma filter_idle {q : PnlEvent → Bool} (hq : ∀ e, p e = false → q e = false) :
    (events.filter p).filter q = events.filter q := by
  rw [List.filter_filter]
  congr 1
  funext e
  cases he : p e <;> simp [hq, he]

lemma exists_idle {q : PnlEvent → Bool} (hq : ∀ e, p e = false → q e = false) :
    (∃ e ∈ events.filter p, q e = true) ↔ ∃ e ∈ events, q e = true := by
  simp only [mem_filter]
  grind

lemma forM_idle {check : PnlEvent → Except PnlError Unit} (hc : ∀ e, p e = false → check e = .ok ()) :
    (events.filter p).forM check = events.forM check := by
  induction events with
  | nil => rfl
  | cons e rest ih =>
    have hcn : (e :: rest).forM check = (do check e; rest.forM check) := rfl
    cases he : p e with
    | true =>
      rw [filter_cons_of_pos he, hcn, ← ih]
      rfl
    | false =>
      rw [filter_cons_of_neg (by simp [he]), hcn, hc e he, ih]
      rfl

lemma run_idle {κ σ τ ρ : Type} [DecidableEq κ] [SemilatticeSup τ] {agree : σ → σ → Bool}
    {conflict : κ → σ → σ → ρ} {read : PnlEvent → Except ρ (Option (κ × σ × τ))}
    (hr : ∀ e, p e = false → read e = .ok none) :
    Keyed.run agree conflict read (events.filter p) = Keyed.run agree conflict read events := by
  rw [Keyed.run, Keyed.run, foldlM_filter]
  congr 1
  funext table e
  cases he : p e with
  | true => rfl
  | false =>
    simp only [Keyed.step, hr e he]
    rfl

variable (hp : ∀ e, p e = false → Idle e)

include hp

lemma brokerScope_idle : brokerScope scope (events.filter p) = brokerScope scope events := by
  unfold brokerScope commandTable
  rw [run_idle fun e he => (hp e he).readCommand, filterMap_idle fun e he => (hp e
    he).oldExecutionId, filterMap_idle fun e he => (hp e he).oldCorrelation]

lemma fillTable_idle : fillTable broker (events.filter p) = fillTable broker events :=
  run_idle fun e he => by
    rw [readFillEntry, (hp e he).readBroker]
    rfl

lemma booksOf_idle {fills : FillTable} :
    booksOf broker fills (events.filter p) = booksOf broker fills events := by
  unfold booksOf readFees
  rw [filterMap_idle fun e he => (hp e he).feeOf]
  congr 1
  funext command
  congr 1
  · exact filter_idle fun e he => by simp [statusOf, (hp e he).readBroker]
  · exact filter_idle fun e he => by simp [cancelOf, (hp e he).readCancel]
  · exact filter_idle fun e he => by simp [completedOf, (hp e he).readTerminal]
  · exact filter_idle fun e he => by simp [ownerTerminalOf, (hp e he).readTerminal]

lemma readBooks_idle : readBooks broker (events.filter p) = readBooks broker events := by
  unfold readBooks
  rw [fillTable_idle hp]
  congr 1
  funext fills
  simp only [booksOf_idle hp, exists_idle fun e he => (hp e he).collides,
    exists_idle fun e he => (hp e he).unvouched]
  rw [forM_idle fun e he => by rw [(hp e he).readCancel]; rfl,
    forM_idle fun e he => by rw [(hp e he).readTerminal]; rfl]

lemma replayWith_idle {β : Type} {render : Books → Settlement → List (Sent × PnlEvent) → β} :
    replayWith scope render (events.filter p) = replayWith scope render events := by
  unfold replayWith
  simp only [brokerScope_idle hp, readBooks_idle hp,
    filterMap_idle fun e he => (hp e he).subjectlessStatus]

end Passes

/-- The records that are left after some that `ledger_noop` picks: those that are marked go. -/
def thinned (marked : List (LedgerRecord × Bool)) : List LedgerRecord :=
  (marked.filter fun r => !(r.2 && ledgerNoop r.1)).map Prod.fst

lemma thinned_filter (marked : List (LedgerRecord × Bool)) :
    ((thinned marked).map LedgerRecord.read).filter (fun e => decide ¬Idle e) =
      ((marked.map Prod.fst).map LedgerRecord.read).filter fun e => decide ¬Idle e := by
  induction marked with
  | nil => rfl
  | cons r rest ih =>
    cases hr : r.2 && ledgerNoop r.1 with
    | false =>
      have hk : thinned (r :: rest) = r.1 :: thinned rest := by
        simp only [thinned, filter_cons, hr]
        rfl
      simp only [hk, map_cons, filter_cons, ih]
    | true =>
      have hg : thinned (r :: rest) = thinned rest := by
        simp only [thinned, filter_cons, hr]
        rfl
      have hi : Idle r.1.read := idle_of_ledgerNoop (Bool.and_eq_true _ _ ▸ hr).2
      rw [hg, ih]
      simp [hi]

theorem ledger_noops_without_effect {β : Type}
    (render : Books → Settlement → List (Sent × PnlEvent) → β)
    (marked : List (LedgerRecord × Bool)) :
    replayWith scope render ((thinned marked).map LedgerRecord.read) =
      replayWith scope render ((marked.map Prod.fst).map LedgerRecord.read) := by
  have hi : ∀ e, decide (¬Idle e) = false → Idle e := by simp
  rw [← replayWith_idle hi, thinned_filter, replayWith_idle hi]

end Pnl

end Hepta
