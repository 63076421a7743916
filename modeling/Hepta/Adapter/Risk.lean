import Hepta.Adapter.State

/-!
# The risk snapshot

The account values and the positions are downloaded by two requests that `BeginCoherentRiskRefresh`
issues together. Their answers come through the event queue; while a request is pending, whatever
item and end marker is taken from the queue counts as its answer.
-/

namespace Hepta

namespace RiskView

variable (r : RiskView)

/-- A request that is not part of a coherent refresh ends the coherence of the snapshot. -/
def dropCoherence : RiskView :=
  { r with
    coherentRiskRefreshPending := false
    coherentRiskRefreshForRecoveryAudit := false
    snapshot := { r.snapshot with complete := false, coherentRefreshComplete := false } }

variable (cfg : HeptaIBConfig) (connectionEpoch : ℕ)

/-- The account request is about to be issued. -/
def beginAccount : RiskView :=
  let generation := r.riskGeneration + 1
  { r with
    riskGeneration := generation
    accountRefreshPending := true
    accountRefreshObserved := false
    accountReadyObserved := false
    accountReady := false
    fxCashRefreshConflict := false
    pendingFxCashBalances := ∅
    rejectedFxCashObservationBalances := ∅
    authoritativeFxCashBalances := if cfg.fxEmpty then r.authoritativeFxCashBalances else ∅
    authoritativeFxCashExposures := if cfg.fxEmpty then r.authoritativeFxCashExposures else ∅
    snapshot :=
      { r.snapshot with
        connectionEpoch
        generation
        accountGeneration := generation
        accountComplete := false
        fxCashComplete := r.snapshot.fxCashComplete && cfg.fxEmpty
        fxCashGeneration := if cfg.fxEmpty then r.snapshot.fxCashGeneration else generation
        positionsComplete := r.snapshot.positionsComplete && cfg.fxEmpty
        reasonCode := "IB_ACCOUNT_SUMMARY_REFRESH_PENDING" } }

/-- The positions request is about to be issued. -/
def beginPositions : RiskView :=
  let generation := r.riskGeneration + 1
  { r with
    riskGeneration := generation
    positionsRefreshPending := true
    positionsRefreshConflict := false
    pendingPositionQuantities := ∅
    pendingPositionContracts := ∅
    snapshot :=
      { r.snapshot with
        connectionEpoch
        generation
        positionsGeneration := generation
        positionsComplete := false
        reasonCode := "IB_POSITIONS_REFRESH_PENDING" } }

/-- What `RefreshAuthoritativeFxCashPositions` computes from the balances. -/
def fxCashExposures (balances : Dict String Double) : Dict String Double :=
  cfg.fxInstrumentByBaseCurrency.entries.foldl (fun table entry =>
    match balances.lookup entry.1, cfg.authoritativeCashFxBaselines.lookup entry.2 with
    | some balance, some baseline =>
      if balance.isFinite && (cfg.authoritativeCashFxContracts.lookup entry.2).isSome &&
          baseline.isFinite && (balance.sub baseline).isFinite then
        table.insert entry.2 (balance.sub baseline)
      else table
    | _, _ => table) ∅

def hasCompletePendingFxCashSnapshot : Bool :=
  cfg.fxEmpty || (!r.fxCashRefreshConflict && !(r.accountReadyObserved && !r.accountReady) &&
    cfg.fxInstrumentByBaseCurrency.keys.all fun currency =>
      (r.pendingFxCashBalances.lookup currency).isSome)

def initialFxCashAttestationMatches : Bool :=
  !r.fxCashInitialAttestationPending ||
    cfg.authoritativeCashFxContracts.entries.all fun entry =>
      match cfg.authoritativeCashFxStartupObservedBalances.lookup entry.1,
        r.pendingFxCashBalances.lookup entry.2.symbol with
      | some expected, some observed =>
        !Double.micro.lt (expected.sub observed).abs
      | _, _ => false

def commitAccount : RiskView :=
  { r with
    rejectedFxCashObservationBalances := ∅
    authoritativeFxCashBalances := r.pendingFxCashBalances
    authoritativeFxCashExposures := fxCashExposures cfg r.pendingFxCashBalances
    fxCashInitialAttestationPending := false
    snapshot :=
      { r.snapshot with
        accountComplete := true
        fxCashComplete := true
        fxCashGeneration := r.snapshot.accountGeneration
        reasonCode := if r.snapshot.positionsComplete then "" else "IB_POSITIONS_NOT_COMPLETE" } }

def rejectAccount (eventStreamAuthoritative initialAttestationMatches : Bool) : RiskView :=
  let mismatch := eventStreamAuthoritative && r.accountRefreshObserved &&
    !r.fxCashRefreshConflict && !(r.accountReadyObserved && !r.accountReady) &&
    !initialAttestationMatches
  { r with
    rejectedFxCashObservationBalances := if mismatch then r.pendingFxCashBalances else ∅
    authoritativeFxCashBalances := ∅
    authoritativeFxCashExposures := ∅
    snapshot :=
      { r.snapshot with
        accountComplete := false
        fxCashComplete := cfg.fxEmpty
        reasonCode :=
          if !eventStreamAuthoritative then "IB_RISK_REFRESH_NOT_AUTHORITATIVE"
          else if !r.accountRefreshObserved then "IB_ACCOUNT_SUMMARY_EMPTY"
          else if r.fxCashRefreshConflict then "IB_FX_CASH_BALANCE_INVALID"
          else if r.accountReadyObserved && !r.accountReady then "IB_ACCOUNT_NOT_READY"
          else if !initialAttestationMatches then "IB_FX_CASH_ATTESTED_BALANCE_MISMATCH"
          else "IB_FX_CASH_BALANCE_MISSING" } }

/-- `CompleteAccountRiskRefresh`, before the coherence is looked at. -/
def completeAccount (eventStreamAuthoritative : Bool) : RiskView :=
  let r := { r with
    accountRefreshPending := false
    snapshot := { r.snapshot with connectionEpoch } }
  let fxComplete := r.hasCompletePendingFxCashSnapshot cfg
  let matched := !fxComplete || r.initialFxCashAttestationMatches cfg
  let r :=
    if eventStreamAuthoritative && r.accountRefreshObserved && fxComplete && matched then
      r.commitAccount cfg
    else r.rejectAccount cfg eventStreamAuthoritative matched
  { r with
    pendingFxCashBalances := ∅
    accountReadyObserved := false
    accountReady := false
    fxCashRefreshConflict := false }

/-- `CompletePositionRiskRefresh`, before the coherence is looked at. -/
def completePositions (eventStreamAuthoritative : Bool) : RiskView :=
  let s := r.snapshot
  let accepted := eventStreamAuthoritative && !r.positionsRefreshConflict
  { r with
    positionsRefreshPending := false
    positionsRefreshConflict := false
    pendingPositionQuantities := ∅
    pendingPositionContracts := ∅
    authoritativePositionQuantities := if accepted then r.pendingPositionQuantities else ∅
    authoritativePositionContracts := if accepted then r.pendingPositionContracts else ∅
    snapshot :=
      { s with
        connectionEpoch
        positionsComplete := accepted
        reasonCode :=
          if accepted then
            if s.accountComplete && s.fxCashComplete then ""
            else if s.reasonCode = "" then "IB_ACCOUNT_SUMMARY_NOT_COMPLETE"
            else s.reasonCode
          else if s.reasonCode = "" then "IB_RISK_REFRESH_NOT_AUTHORITATIVE"
          else s.reasonCode } }

/-- `ApplyPositionSnapshotItem` for the account: the keys of one download are different. -/
def positionItem (e : IBEvent) : RiskView :=
  if !e.number.isFinite then
    { r with
      positionsRefreshConflict := true
      snapshot := { r.snapshot with reasonCode := "IB_POSITION_VALUE_INVALID" } }
  else if (r.pendingPositionQuantities.lookup e.key).isSome ∨
      (r.pendingPositionContracts.lookup e.key).isSome then
    { r with
      pendingPositionQuantities := Dict.setDefault r.pendingPositionQuantities e.key e.number
      pendingPositionContracts := Dict.setDefault r.pendingPositionContracts e.key e.contract
      positionsRefreshConflict := true
      snapshot := { r.snapshot with reasonCode := "IB_POSITION_IDENTITY_CONFLICT" } }
  else
    { r with
      pendingPositionQuantities := r.pendingPositionQuantities.insert e.key e.number
      pendingPositionContracts := r.pendingPositionContracts.insert e.key e.contract }

end RiskView

namespace HeptaIBGatewayAdapter

/-! ### Requests -/

variable (a : HeptaIBGatewayAdapter)

def reqAccountSummary (coherent : Bool) : Bool × HeptaIBGatewayAdapter :=
  let a := if coherent then a else { a with risk := a.risk.dropCoherence }
  if a.risk.accountRefreshPending then (false, a)
  else match a.api.filter Api.connected with
    | none => (false, a.invalidateRiskSnapshot "IB_ACCOUNT_SUMMARY_REFRESH_DISCONNECTED")
    | some api =>
      if a.risk.riskGeneration = uint64Max then
        (false, a.invalidateRiskSnapshot "IB_RISK_GENERATION_EXHAUSTED")
      else
        let risk := a.risk.beginAccount a.cfg a.connectionEpoch
        let (requested, api) := api.reqAccountSummary
        if requested then (true, { a with risk, api := some api })
        else
          (false,
            { a with
              api := some api
              risk := { risk with
                accountRefreshPending := false
                snapshot := { risk.snapshot with
                  reasonCode := "IB_ACCOUNT_SUMMARY_REFRESH_REJECTED" } } })

def reqPositions (coherent : Bool) : Bool × HeptaIBGatewayAdapter :=
  let a := if coherent then a else { a with risk := a.risk.dropCoherence }
  if a.risk.positionsRefreshPending then (false, a)
  else match a.api.filter Api.connected with
    | none => (false, a.invalidateRiskSnapshot "IB_POSITIONS_REFRESH_DISCONNECTED")
    | some api =>
      if a.risk.riskGeneration = uint64Max then
        (false, a.invalidateRiskSnapshot "IB_RISK_GENERATION_EXHAUSTED")
      else
        let risk := a.risk.beginPositions a.connectionEpoch
        let (requested, api) := api.reqPositions
        if requested then (true, { a with risk, api := some api })
        else
          (false,
            { a with
              api := some api
              risk := { risk with
                positionsRefreshPending := false
                snapshot := { risk.snapshot with reasonCode := "IB_POSITIONS_REFRESH_REJECTED" } } })

/-- What a coherent refresh is compared with when it completes. -/
def markCoherentRefresh (recoveryAuditBarrier : Bool) : HeptaIBGatewayAdapter :=
  { a with
    risk := { a.risk with
      coherentRiskRefreshPending := true
      coherentRiskRefreshForRecoveryAudit := recoveryAuditBarrier
      coherentRiskRefreshConnectionEpoch := a.connectionEpoch
      coherentRiskRefreshExposureGeneration := a.exposureGeneration
      coherentRiskRefreshActiveGeneration := if recoveryAuditBarrier then a.active.generation else 0
      coherentRiskRefreshTerminalGeneration :=
        if recoveryAuditBarrier then a.terminal.snapshot.generation else 0
      coherentRiskRefreshMutationGeneration := a.brokerMutationGeneration
      coherentRiskRefreshAccountGeneration := a.risk.riskGeneration + 1
      coherentRiskRefreshPositionGeneration := a.risk.riskGeneration + 2
      snapshot := { a.risk.snapshot with complete := false, coherentRefreshComplete := false } } }

def beginCoherentRiskRefresh (recoveryAuditBarrier : Bool) : Bool × HeptaIBGatewayAdapter :=
  if a.risk.accountRefreshPending || a.risk.positionsRefreshPending then (false, a)
  else if uint64Max - 2 < a.risk.riskGeneration then
    (false, a.invalidateRiskSnapshot "IB_RISK_GENERATION_EXHAUSTED")
  else
    let (accountDispatched, a) := (a.markCoherentRefresh recoveryAuditBarrier).reqAccountSummary true
    if !accountDispatched then
      (false,
        { a with
          risk := { a.risk with
            coherentRiskRefreshPending := false
            coherentRiskRefreshForRecoveryAudit := false } })
    else
      let (positionsDispatched, a) := a.reqPositions true
      if !positionsDispatched then
        (false, a.invalidateRiskSnapshot "IB_RISK_REFRESH_PARTIAL_DISPATCH")
      else (true, a)

def reqRiskRefresh : Bool × HeptaIBGatewayAdapter :=
  a.beginCoherentRiskRefresh false

def reqRecoveryAuditRiskRefresh : Bool × HeptaIBGatewayAdapter :=
  if a.audit.minimumConnectionEpoch ≠ 0 ∧ a.connectionEpoch < a.audit.minimumConnectionEpoch then
    (false, a)
  else if !a.active.complete ∨ !a.terminal.snapshot.complete ∨
      a.active.connectionEpoch ≠ a.connectionEpoch ∨
      a.terminal.snapshot.connectionEpoch ≠ a.connectionEpoch ∨ a.active.generation = 0 ∨
      a.terminal.snapshot.generation = 0 then (false, a)
  else
    { a with audit := { a.audit with attemptedConnectionEpoch := a.connectionEpoch } }
      |>.beginCoherentRiskRefresh true

/-! ### Completion -/

def coherentRefreshSucceeded : Bool :=
  let r := a.risk
  let s := r.snapshot
  r.coherentRiskRefreshConnectionEpoch = a.connectionEpoch &&
    s.connectionEpoch = a.connectionEpoch &&
    s.accountGeneration = r.coherentRiskRefreshAccountGeneration &&
    s.positionsGeneration = r.coherentRiskRefreshPositionGeneration &&
    a.eventStreamAuthoritative && s.accountComplete && s.positionsComplete && s.fxCashComplete &&
    s.accountGeneration ≠ 0 && s.positionsGeneration ≠ 0 && s.fxCashGeneration ≠ 0

/-- Nothing has moved since the refresh of the recovery audit was issued. -/
def recoveryBarrierHolds : Bool :=
  let r := a.risk
  r.coherentRiskRefreshForRecoveryAudit &&
    (a.audit.minimumConnectionEpoch = 0 ||
      decide (a.audit.minimumConnectionEpoch ≤ a.connectionEpoch)) &&
    a.active.complete && a.terminal.snapshot.complete &&
    a.active.connectionEpoch = a.connectionEpoch &&
    a.terminal.snapshot.connectionEpoch = a.connectionEpoch &&
    a.active.generation = r.coherentRiskRefreshActiveGeneration &&
    a.terminal.snapshot.generation = r.coherentRiskRefreshTerminalGeneration &&
    decide (a.terminal.snapshot.exposureGeneration ≤ r.coherentRiskRefreshExposureGeneration) &&
    a.exposureGeneration = r.coherentRiskRefreshExposureGeneration &&
    a.brokerMutationGeneration = r.coherentRiskRefreshMutationGeneration &&
    a.postFillReconciliationOrderIds = ∅

def auditAfterRefresh (complete : Bool) : AuditBarrier :=
  if complete && a.recoveryBarrierHolds then
    { a.audit with
      complete := true
      connectionEpoch := a.connectionEpoch
      mutationGeneration := a.brokerMutationGeneration
      reason := "" }
  else if a.risk.coherentRiskRefreshForRecoveryAudit then
    a.audit.invalidate (if complete then "IB_RECOVERY_AUDIT_BARRIER_DRIFT"
      else "IB_RECOVERY_AUDIT_RISK_REFRESH_INCOMPLETE")
  else a.audit

def completeCoherentRiskRefreshIfReady : HeptaIBGatewayAdapter :=
  if !a.risk.coherentRiskRefreshPending || a.risk.accountRefreshPending ||
      a.risk.positionsRefreshPending then a
  else
    let complete := a.coherentRefreshSucceeded
    let s := a.risk.snapshot
    { a with
      audit := a.auditAfterRefresh complete
      risk := { a.risk with
        coherentRiskRefreshPending := false
        coherentRiskRefreshForRecoveryAudit := false
        snapshot := { s with
          complete
          coherentRefreshComplete := complete
          riskAbsorbedExposureGeneration :=
            if complete then a.risk.coherentRiskRefreshExposureGeneration
            else s.riskAbsorbedExposureGeneration
          reasonCode :=
            if complete ∧ a.exposureGeneration ≠ a.risk.coherentRiskRefreshExposureGeneration then
              "IB_RISK_EXPOSURE_ADVANCED_DURING_REFRESH"
            else s.reasonCode } } }

/-! ### Answers -/

def cashKey : List Char := "CashBalance:".toList

def readyKey : List Char := "AccountReady:".toList

variable (e : IBEvent)

def initialFxCashValue : RiskView :=
  let r := a.risk
  if readyKey.isPrefixOf e.key.toList then
    let ready := e.value.toLower
    if ready ≠ "true" ∧ ready ≠ "false" then { r with fxCashRefreshConflict := true }
    else
      { r with
        fxCashRefreshConflict := r.fxCashRefreshConflict ||
          (r.accountReadyObserved && r.accountReady ≠ (ready = "true"))
        accountReadyObserved := true
        accountReady := ready = "true" }
  else
    let currency := String.ofList (e.key.toList.drop cashKey.length)
    if (a.cfg.fxInstrumentByBaseCurrency.lookup currency).isNone then r
    else match strtod e.value with
      | none => { r with fxCashRefreshConflict := true }
      | some parsed =>
        if (r.pendingFxCashBalances.lookup currency).any fun existing => !existing.eq parsed then
          { r with fxCashRefreshConflict := true }
        else { r with pendingFxCashBalances := r.pendingFxCashBalances.insert currency parsed }

/-- A balance outside of a download is no answer: it can only show that the snapshot is stale. -/
def monitorFxCashBalance : HeptaIBGatewayAdapter :=
  let r := a.risk
  let currency := String.ofList (e.key.toList.drop cashKey.length)
  let mismatch := r.snapshot.reasonCode = "IB_FX_CASH_ATTESTED_BALANCE_MISMATCH"
  let denied := !r.snapshot.accountComplete && !r.snapshot.fxCashComplete
  if (a.cfg.fxInstrumentByBaseCurrency.lookup currency).isNone then a
  else match strtod e.value with
    | none => a.invalidateRiskSnapshot "IB_FX_CASH_BALANCE_INVALID"
    | some parsed =>
      if denied && mismatch &&
          (r.rejectedFxCashObservationBalances.lookup currency).any fun old => old.eq parsed then a
      else if denied && r.authoritativeFxCashBalances.entries.isEmpty && !mismatch then a
      else if (r.authoritativeFxCashBalances.lookup currency).any fun committed =>
          committed.eq parsed then a
      else a.invalidateRiskSnapshot "IB_FX_CASH_BALANCE_OUT_OF_GENERATION_CHANGE"

def monitorFxCashValue : HeptaIBGatewayAdapter :=
  if readyKey.isPrefixOf e.key.toList then
    let ready := e.value.toLower
    if ready ≠ "true" ∧ ready ≠ "false" then
      a.invalidateRiskSnapshot "IB_ACCOUNT_READY_VALUE_INVALID"
    else if ready = "false" then a.invalidateRiskSnapshot "IB_ACCOUNT_NOT_READY"
    else a
  else a.monitorFxCashBalance e

def isFxCashValue : Bool :=
  !a.cfg.fxEmpty &&
    (readyKey.isPrefixOf e.key.toList || cashKey.isPrefixOf e.key.toList)

def applyAccountValueRiskEvent : HeptaIBGatewayAdapter :=
  if e.account ≠ a.cfg.account then a
  else if a.risk.accountRefreshPending then
    if a.isFxCashValue e then { a with risk := a.initialFxCashValue e }
    else { a with risk := { a.risk with accountRefreshObserved := true } }
  else if a.isFxCashValue e then a.monitorFxCashValue e
  else a

def applyPositionSnapshotItem : HeptaIBGatewayAdapter :=
  if a.cfg.account = "" ∨ e.account ≠ a.cfg.account then a
  else { a with risk := a.risk.positionItem e }

/-- A position that was reported after the download: a change makes the snapshot stale. -/
def applyPositionMonitorUpdate : HeptaIBGatewayAdapter :=
  if e.account ≠ a.cfg.account ∨ !a.risk.snapshot.positionsComplete then a
  else if !e.number.isFinite then a.invalidateRiskSnapshot "IB_POSITION_MONITOR_VALUE_INVALID"
  else
    let committed := a.risk.authoritativePositionQuantities.lookup e.key
    let changed :=
      match committed with
      | none => !e.number.eq .zero
      | some quantity => !quantity.eq e.number
    let contractChanged := committed.isSome &&
      !(a.risk.authoritativePositionContracts.lookup e.key).any fun contract =>
        contract.symbol = e.contract.symbol && contract.secType = e.contract.secType &&
          contract.currency = e.contract.currency
    if changed || contractChanged then
      a.invalidateRiskSnapshot "IB_POSITION_OUT_OF_GENERATION_CHANGE"
    else a

def completeAccountRiskRefresh : HeptaIBGatewayAdapter :=
  { a with risk := a.risk.completeAccount a.cfg a.connectionEpoch a.eventStreamAuthoritative }
    |>.completeCoherentRiskRefreshIfReady

def completePositionRiskRefresh : HeptaIBGatewayAdapter :=
  { a with risk := a.risk.completePositions a.connectionEpoch a.eventStreamAuthoritative }
    |>.completeCoherentRiskRefreshIfReady

def applyRiskSnapshotEvent : HeptaIBGatewayAdapter :=
  match e.type with
  | .accountValue => a.applyAccountValueRiskEvent e
  | .accountSummaryEnd =>
    if a.risk.accountRefreshPending then a.completeAccountRiskRefresh else a
  | .positionSnapshotItem =>
    if a.risk.positionsRefreshPending then a.applyPositionSnapshotItem e else a
  | .positionMonitorUpdate => a.applyPositionMonitorUpdate e
  | .positionEnd => if a.risk.positionsRefreshPending then a.completePositionRiskRefresh else a
  | _ => a

/-- `PublishPositionEvent`: a portfolio update is taken over into a complete snapshot. -/
def publishPositionEvent : HeptaIBGatewayAdapter :=
  if e.type = .portfolioUpdate ∧ a.risk.snapshot.positionsComplete ∧ a.eventStreamAuthoritative ∧
      e.number.isFinite ∧ a.cfg.account ≠ "" ∧ e.account = a.cfg.account then
    { a with
      risk := { a.risk with
        authoritativePositionQuantities :=
          a.risk.authoritativePositionQuantities.insert e.key e.number
        authoritativePositionContracts :=
          a.risk.authoritativePositionContracts.insert e.key e.contract } }
  else a

end HeptaIBGatewayAdapter

end Hepta
