import PgElastic.Proxy.Draining
import PgElastic.Proxy.CallSections
import PgElastic.Epoch.InDoubt
import PgElastic.Proxy.CheckIn
import PgElastic.Proxy.Invalidation
import PgElastic.Capacity.History
import PgElastic.Capacity.QuorumLoss
import PgElastic.Capacity.ScaleDown
import PgElastic.Proxy.LoginIdentity
import PgElastic.Proxy.PoolAccounts
import PgElastic.Proxy.GateFlow
import PgElastic.Proxy.RouteUpdates
import PgElastic.Proxy.SessionIds
import PgElastic.Proxy.ConnectRuns
import PgElastic.Proxy.CancelSafety
import PgElastic.Pool.StartupKey
import PgElastic.Proxy.Variables
import PgElastic.Proxy.FenceSafety
import PgElastic.Proxy.StatementRuns
import PgElastic.Proxy.CopyRuns
import PgElastic.Migration.PauseBudget
import PgElastic.Ha.Passes
import PgElastic.Ha.Reloads
import PgElastic.Ha.Roll
import PgElastic.Tenancy.Ensure
import PgElastic.Proxy.Stall
import PgElastic.Autoscale.Plan
import PgElastic.Migration.Sequences
import PgElastic.Metering.Accumulator
