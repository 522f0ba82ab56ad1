import CmlCloudManager.ControlPlane.Callbacks
import CmlCloudManager.Pipeline.DispatchSafety
import CmlCloudManager.Pipeline.Visits
import CmlCloudManager.Pipeline.TemplateResolver
import CmlCloudManager.Controller.StepDispatcher
import CmlCloudManager.Controller.DeviceAccess
import CmlCloudManager.Controller.TemplateFallback
import CmlCloudManager.Controller.ScenarioEngine
import CmlCloudManager.Pipeline.Reports
import CmlCloudManager.Pipeline.FailureSignals
import CmlCloudManager.Pipeline.RunAccounting
import CmlCloudManager.ScenarioEngine.DslCancellation
import CmlCloudManager.ScenarioEngine.DslContainment
import CmlCloudManager.ScenarioEngine.DslGrouping
import CmlCloudManager.ScenarioEngine.DslContext
import CmlCloudManager.ScenarioEngine.DslObserver
import CmlCloudManager.ControlPlane.PersistedRuns
import CmlCloudManager.Controller.RetryCompleteness
import CmlCloudManager.Controller.SuspensionUniqueness
import CmlCloudManager.Controller.Redispatch
import CmlCloudManager.Controller.RetryBudget
import CmlCloudManager.ControlPlane.ResumeEquivalence
import CmlCloudManager.ControlPlane.CompletionSignal
import CmlCloudManager.ControlPlane.LifecycleAudit
import CmlCloudManager.ControlPlane.SessionDuration
import CmlCloudManager.Controller.PhaseChange
import CmlCloudManager.Core.LeaderElection
import CmlCloudManager.Foundation.Ledger
import CmlCloudManager.Foundation.Repository
import CmlCloudManager.ControlPlane.WorkerCapacity
import CmlCloudManager.ControlPlane.LabletDefinition
import CmlCloudManager.ControlPlane.SessionCommands
import CmlCloudManager.ControlPlane.CommandEffects
import CmlCloudManager.ControlPlane.CapacityConservation
import CmlCloudManager.ControlPlane.CapacityRepair
import CmlCloudManager.ControlPlane.TimeslotClosure
import CmlCloudManager.Foundation.VersionedStore
import CmlCloudManager.ControlPlane.Overcommit
import CmlCloudManager.ControlPlane.PortAllocation
import CmlCloudManager.ControlPlane.PortConcurrency
import CmlCloudManager.ControlPlane.ScaleUp
import CmlCloudManager.Scheduler.PersonalLicense
import CmlCloudManager.ControlPlane.DiscoveryFreshness
import CmlCloudManager.Core.ReconcileExclusion
import CmlCloudManager.Core.WatchDelivery
import CmlCloudManager.ControlPlane.PendingAction
import CmlCloudManager.Foundation.Links
import CmlCloudManager.ControlPlane.LabBinding
import CmlCloudManager.Controller.LabRecordReconciler
import CmlCloudManager.Core.PodType
import CmlCloudManager.Core.ContentExtractor
import CmlCloudManager.ControlPlane.DefinitionLifecycle
import CmlCloudManager.Controller.SuspendedStepWatchdog
import CmlCloudManager.ScenarioEngine.ContentSync
import CmlCloudManager.ScenarioEngine.Job
import CmlCloudManager.ScenarioEngine.JobExecution
import CmlCloudManager.ScenarioEngine.JobRuns
import CmlCloudManager.ScenarioEngine.FinishedJobs
import CmlCloudManager.ScenarioEngine.JobConcurrency
import CmlCloudManager.ScenarioEngine.JobNotifications
import CmlCloudManager.ControlPlane.DiscoveryConcurrency
import CmlCloudManager.ControlPlane.RevisionHistory
import CmlCloudManager.ControlPlane.TopologyChecksum
import CmlCloudManager.ControlPlane.TopologyDetection
import CmlCloudManager.ControlPlane.RunHistory
import CmlCloudManager.ControlPlane.PortAvailability
import CmlCloudManager.ControlPlane.PortNames
import CmlCloudManager.ControlPlane.PortSearch
import CmlCloudManager.Core.Backoff
import CmlCloudManager.Foundation.Ranking
import CmlCloudManager.Scheduler.PlacementCorrectness
import CmlCloudManager.Scheduler.PlacementPreview
import CmlCloudManager.Foundation.DottedNumerals
import CmlCloudManager.Scheduler.VersionBounds
import CmlCloudManager.Scheduler.PortCounting
import CmlCloudManager.Scheduler.ScaleUpUsefulness
import CmlCloudManager.Controller.TimeslotWatcher
import CmlCloudManager.Worker.CMLWorker
import CmlCloudManager.Worker.WorkerCommands
import CmlCloudManager.Worker.WorkerReadModel
import CmlCloudManager.Worker.WorkerReconciler
import CmlCloudManager.Worker.IdleDetection
import CmlCloudManager.Foundation.Serving
import CmlCloudManager.Foundation.Descent
import CmlCloudManager.Worker.ReconcilerTrace
import CmlCloudManager.Worker.WorkerPhases
import CmlCloudManager.Worker.WorkerWorld
import CmlCloudManager.Worker.WorkerConvergence
import CmlCloudManager.Worker.WorkerSite
import CmlCloudManager.Worker.WorkerRuns
import CmlCloudManager.Worker.LaunchOnce
import CmlCloudManager.Worker.WorkerImport
import CmlCloudManager.Worker.DiscoveryLoop
