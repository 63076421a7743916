import Hepta.Safety.Exclusion
import Hepta.Safety.SendBudget
import Hepta.Safety.FenceSurvival
import Hepta.Safety.Admission
import Hepta.Safety.Mirror
import Hepta.Safety.Finality
import Hepta.Checkpoint.SendTimes
import Hepta.Checkpoint.Owners
import Hepta.Lease.Authority
import Hepta.Events.Relay
import Hepta.Simulator.Venue
import Hepta.Risk.Snapshot
import Hepta.Accounting.Redelivery
import Hepta.Accounting.Ledger
import Hepta.Execution.CumulativeEvidence
import Hepta.Adapter.RiskCoherence
import Hepta.Adapter.OrderRef
import Hepta.Journal.Framing
import Hepta.Research.Ledger
import Hepta.ToolHost.RateBudget
import Hepta.ToolHost.Tombstone
import Hepta.ToolHost.Dispatch
import Hepta.Supervisor.ReadBack
import Hepta.Adapter.FinalOrders
import Hepta.Safety.CancelResolution
