import HealthMonitor.Main
import HealthMonitor.Proofs.BootstrapCompletion
import HealthMonitor.Proofs.DependencyGate
import HealthMonitor.Proofs.LiveResults
import HealthMonitor.Proofs.PreLive
import HealthMonitor.Proofs.RunShape
import HealthMonitor.Proofs.Timeline
import HealthMonitor.Reporter.Patient
import HealthMonitor.Proofs.Pacing
import HealthMonitor.Proofs.Deadline
import HealthMonitor.Proofs.BootstrapLimit
import HealthMonitor.Proofs.CompletedCycles
import HealthMonitor.Proofs.RunExits
import HealthMonitor.Proofs.AbandonedCalls
import HealthMonitor.Proofs.CallsInFlight
import HealthMonitor.Proofs.Rounds
import HealthMonitor.Proofs.Shutdown
import HealthMonitor.Proofs.Heartbeats
import HealthMonitor.Proofs.TimeoutReports
import HealthMonitor.Proofs.ReportIntervals
import HealthMonitor.Proofs.ProbeOrder
import HealthMonitor.Proofs.Drives
import HealthMonitor.Proofs.StatusChecks
import HealthMonitor.Proofs.SafeModePolicies
import HealthMonitor.Proofs.StatusBoards
import HealthMonitor.Proofs.SafeModeGate
import HealthMonitor.Proofs.MonitorCommand
import HealthMonitor.Proofs.Timings
import HealthMonitor.Proofs.ProbeUrls
import HealthMonitor.Proofs.WatchedPings
import HealthMonitor.Proofs.StatusCheckPlans
import HealthMonitor.Proofs.PidFiles
import HealthMonitor.Proofs.Ages
import HealthMonitor.Proofs.PublishedStatuses
import HealthMonitor.Proofs.CheckedRuns
