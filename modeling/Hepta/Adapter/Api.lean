import Hepta.Adapter.Event

/-!
# The wrapper of the IB client

`IIBApiWrapper` in its linked implementation: a bounded queue of events whose losses are reported
before anything else, the two request families of the risk snapshot with the ids that callbacks are
compared with, and the callbacks. A callback is filtered only when it arrives. Events are queued at
once: none waits for the end of a quote admission.
-/

namespace Hepta

/-! ### The event queue -/

structure IBAuthoritativeEventQueue where
  maxEvents : ℕ
  events : List IBEvent := []
  overflowGeneration : ℕ := 0
  reportedOverflowGeneration : ℕ := 0
  latestConnectionEpoch : ℕ := 0

namespace IBAuthoritativeEventQueue

variable (q : IBAuthoritativeEventQueue)

/-- The oldest event makes room for a new one. -/
def push (e : IBEvent) : IBAuthoritativeEventQueue :=
  let latest := max q.latestConnectionEpoch e.connectionEpoch
  if q.maxEvents ≤ q.events.length then
    { q with
      events := q.events.tail ++ [e]
      overflowGeneration := q.overflowGeneration + 1
      latestConnectionEpoch := latest }
  else { q with events := q.events ++ [e], latestConnectionEpoch := latest }

def recordDroppedEvent (connectionEpoch : ℕ) : IBAuthoritativeEventQueue :=
  { q with
    overflowGeneration := q.overflowGeneration + 1
    latestConnectionEpoch := max q.latestConnectionEpoch connectionEpoch }

/-- A loss is reported before any event. -/
def tryDequeueEvent : Option (IBEvent × IBAuthoritativeEventQueue) :=
  if q.reportedOverflowGeneration < q.overflowGeneration then
    some
      ({ type := .eventQueueOverflow
         id := q.overflowGeneration
         connectionEpoch := q.latestConnectionEpoch
         key := "EVENT_QUEUE_OVERFLOW"
         value := "AUTHORITATIVE_STATE_INVALID_REQUIRES_RESYNC"
         overflowGeneration := q.overflowGeneration },
        { q with reportedOverflowGeneration := q.overflowGeneration })
  else match q.events with
    | [] => none
    | e :: rest => some (e, { q with events := rest })

end IBAuthoritativeEventQueue

/-! ### Requests -/

/-- What is passed to the broker. -/
inductive ApiCall where
  | place (orderId : Int) (contract : InstrumentRef) (order : OrderIntent)
  | cancel (orderId : Int)
  deriving DecidableEq

structure Api where
  /-- `m_params.account`. -/
  account : String
  connected : Bool := false
  connectionEpoch : ℕ := 0
  queue : IBAuthoritativeEventQueue
  accountUpdatesSubscribed : Bool := false
  accountUpdatesInitialDownloadPending : Bool := false
  nextAccountRefreshReqId : Int := 9001
  activeAccountUpdatesReqId : Int := 0
  positionsSubscribed : Bool := false
  positionsInitialDownloadPending : Bool := false
  /-- `IBPositionsRequestFence`. -/
  nextPositionsRequestId : Int := 12001
  activePositionsRequestId : Int := 0
  calls : List ApiCall := []

namespace Api

/-- A new wrapper. -/
def rebuilt (maxEvents : ℕ) : Api := { account := "", queue := { maxEvents } }

def intMax : Int := 2 ^ 31 - 1

variable (api : Api)

def reqAccountSummary : Bool × Api :=
  if !api.connected || api.account = "" then (false, api)
  else
    let cancelled := { api with
      accountUpdatesSubscribed := false
      accountUpdatesInitialDownloadPending :=
        api.accountUpdatesInitialDownloadPending && !api.accountUpdatesSubscribed }
    if api.nextAccountRefreshReqId ≤ 0 ∨ api.nextAccountRefreshReqId = intMax then (false, cancelled)
    else
      (true,
        { cancelled with
          activeAccountUpdatesReqId := api.nextAccountRefreshReqId
          nextAccountRefreshReqId := api.nextAccountRefreshReqId + 1
          accountUpdatesSubscribed := true
          accountUpdatesInitialDownloadPending := true })

def reqPositions : Bool × Api :=
  if !api.connected || api.account = "" then (false, api)
  else if api.nextPositionsRequestId ≤ 0 ∨ api.nextPositionsRequestId = intMax then (false, api)
  else
    (true,
      { api with
        activePositionsRequestId := api.nextPositionsRequestId
        nextPositionsRequestId := api.nextPositionsRequestId + 1
        positionsSubscribed := true
        positionsInitialDownloadPending := true })

def disconnect : Api :=
  if !api.connected then api
  else
    { api with
      connected := false
      accountUpdatesSubscribed := api.accountUpdatesSubscribed && api.account = ""
      accountUpdatesInitialDownloadPending := api.accountUpdatesInitialDownloadPending &&
        !(api.accountUpdatesSubscribed && api.account ≠ "")
      positionsSubscribed := api.positionsSubscribed && !decide (0 < api.activePositionsRequestId)
      positionsInitialDownloadPending := api.positionsInitialDownloadPending &&
        !(api.positionsSubscribed && decide (0 < api.activePositionsRequestId))
      activePositionsRequestId :=
        if api.positionsSubscribed ∧ 0 < api.activePositionsRequestId then 0
        else api.activePositionsRequestId }

/-! ### Callbacks -/

/-- An event without an epoch gets that of the connection. -/
def stamp (e : IBEvent) : IBEvent :=
  { e with
    connectionEpoch := if e.connectionEpoch = 0 then api.connectionEpoch else e.connectionEpoch }

def pushEvent (e : IBEvent) : Api := { api with queue := api.queue.push (api.stamp e) }

def updateAccountValue (key value currency account : String) : IBEvent :=
  { type := .accountValue, id := 0, key := key ++ ":" ++ currency, value, account }

def accountUpdateMulti (reqId : Int) (account key value currency : String) : Option IBEvent :=
  if reqId ≠ api.activeAccountUpdatesReqId ∨ account ≠ api.account then none
  else some { type := .accountValue, id := reqId, key := key ++ ":" ++ currency, value, account }

def accountUpdateMultiEnd (reqId : Int) : Option IBEvent × Api :=
  if reqId ≠ api.activeAccountUpdatesReqId ∨ !api.accountUpdatesSubscribed ∨
      !api.accountUpdatesInitialDownloadPending then (none, api)
  else
    (some
      { type := .accountSummaryEnd
        id := api.activeAccountUpdatesReqId
        key := "ACCOUNT_AND_CASH_SNAPSHOT_END"
        value := "END"
        account := api.account },
      { api with accountUpdatesInitialDownloadPending := false })

/-- A position, with the key of its contract. A quantity that is not set is `none`. -/
def positionMulti (reqId : Int) (account modelCode key : String) (contract : InstrumentRef)
    (pos : Option Double) : Option IBEvent :=
  match pos with
  | none => none
  | some quantity =>
    if !api.positionsSubscribed ∨ reqId ≤ 0 ∨ reqId ≠ api.activePositionsRequestId ∨
        account ≠ api.account ∨ modelCode ≠ "" ∨ contract.secType = "CASH" then none
    else
      some
        { type := if api.positionsInitialDownloadPending then .positionSnapshotItem
            else .positionMonitorUpdate
          id := reqId
          requestId := reqId
          key
          number := quantity
          account
          contract }

def positionMultiEnd (reqId : Int) : Option IBEvent × Api :=
  if !api.positionsSubscribed ∨ !api.positionsInitialDownloadPending ∨ reqId ≤ 0 ∨
      reqId ≠ api.activePositionsRequestId then (none, api)
  else
    (some { type := .positionEnd, id := reqId, requestId := reqId, account := api.account },
      { api with positionsInitialDownloadPending := false })

def connectionClosed : Api :=
  { api with
    connected := false
    accountUpdatesSubscribed := false
    accountUpdatesInitialDownloadPending := false
    positionsSubscribed := false
    positionsInitialDownloadPending := false
    activePositionsRequestId :=
      if 0 < api.activePositionsRequestId then 0 else api.activePositionsRequestId }

/-- The events of the risk snapshot come from the callbacks above. -/
def isRiskType : IBEventType → Bool
  | .accountValue | .accountSummaryEnd | .positionSnapshotItem | .positionMonitorUpdate
  | .positionEnd => true
  | _ => false

inductive Callback where
  | updateAccountValue (key value currency account : String)
  | accountUpdateMulti (reqId : Int) (account key value currency : String)
  | accountUpdateMultiEnd (reqId : Int)
  | positionMulti (reqId : Int) (account modelCode key : String) (contract : InstrumentRef)
      (pos : Option Double)
  | positionMultiEnd (reqId : Int)
  | connectionClosed
  /-- An event that could not be queued. -/
  | dropped
  /-- The other callbacks (orders, executions, errors, portfolio, ticks, handshake) leave the event
that they were given, with the epoch of the connection. -/
  | other (e : IBEvent) (h : isRiskType e.type = false ∧ e.type ≠ .connectionClosed ∧
      e.type ≠ .eventQueueOverflow ∧ e.connectionEpoch = 0)

/-- What a callback leaves for the queue, and the wrapper after it. -/
def receive : Callback → Option IBEvent × Api
  | .updateAccountValue key value currency account =>
    (some (Api.updateAccountValue key value currency account), api)
  | .accountUpdateMulti reqId account key value currency =>
    (api.accountUpdateMulti reqId account key value currency, api)
  | .accountUpdateMultiEnd reqId => api.accountUpdateMultiEnd reqId
  | .positionMulti reqId account modelCode key contract pos =>
    (api.positionMulti reqId account modelCode key contract pos, api)
  | .positionMultiEnd reqId => api.positionMultiEnd reqId
  | .connectionClosed =>
    (some { type := .connectionClosed, value := "IB_CONNECTION_CLOSED" }, api.connectionClosed)
  | .dropped => (none, { api with queue := api.queue.recordDroppedEvent api.connectionEpoch })
  | .other e _ => (some e, api)

def callback (c : Callback) : Api :=
  match api.receive c with
  | (none, api) => api
  | (some e, api) => api.pushEvent e

end Api

end Hepta
