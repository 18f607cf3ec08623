import AConductor.Job.ExecutionFence
import AConductor.Graph.DispatchSafety
import AConductor.Dex.AdmissionFrozen
import AConductor.Graph.PreparationRun
import AConductor.Provider.Generations
import AConductor.HookBus.Bounds
import AConductor.Job.Ownership
import AConductor.Relay.TornTail
import AConductor.Signal.Outcome
import AConductor.ZCode.Completion
import AConductor.WorkerLease.Slots
import AConductor.HookBus.Order
import AConductor.Registry.RoundTrip
import AConductor.Lifecycle.Prefix
import AConductor.HookStm.Staleness
import AConductor.Dex.Completion
import AConductor.Gateway.Admission
import AConductor.Operator.JobControl
import AConductor.Review.Materialize
import AConductor.AgentChange.WriteExclusion
import AConductor.Graph.StoredGraph
import AConductor.Connector.RecoveryRuns
import AConductor.Graph.Builder
import AConductor.Relay.Acknowledgement
import AConductor.Semantic.Request
import AConductor.WorkerLease.Explain
import AConductor.ParallelReady.Runs
import AConductor.Supervised.Redactor
import AConductor.Provider.RuntimeSelection
import AConductor.Execution.Demotion
import AConductor.Review.Response
import AConductor.Cockpit.Observed
import AConductor.Environment.Writes
import AConductor.Settings.Rendered
import AConductor.Native.GitPathspec
import AConductor.ZCode.Containment
import AConductor.Execution.Recognition
import AConductor.Closeout.FailClosed
import AConductor.Closeout.Evidence
import AConductor.Instance.Create
