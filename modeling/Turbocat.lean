import Turbocat.Agent.Executor
import Turbocat.Agent.JobAttempts
import Turbocat.Agent.Process
import Turbocat.Agent.TaskLifecycle
import Turbocat.Connectors.AnsweredExtracts
import Turbocat.Connectors.ClickHouse
import Turbocat.Connectors.ClickHouseInserts
import Turbocat.Connectors.Conversations
import Turbocat.Connectors.FailedSyncs
import Turbocat.Connectors.HttpClient
import Turbocat.Connectors.HttpExtracts
import Turbocat.Connectors.Kapture
import Turbocat.Connectors.KaptureDays
import Turbocat.Connectors.LocalTimestamps
import Turbocat.Connectors.MalformedRecords
import Turbocat.Connectors.MissingFields
import Turbocat.Connectors.Models
import Turbocat.Connectors.NewestExtraction
import Turbocat.Connectors.OffsetPages
import Turbocat.Connectors.PagedReads
import Turbocat.Connectors.RateLimits
import Turbocat.Connectors.Razorpay
import Turbocat.Connectors.Registry
import Turbocat.Connectors.RepairedSyncs
import Turbocat.Connectors.ReplyShapes
import Turbocat.Connectors.SchemaAgreement
import Turbocat.Connectors.ServedExtracts
import Turbocat.Connectors.SourceConfigs
import Turbocat.Connectors.SourceCoverage
import Turbocat.Connectors.Sync
import Turbocat.Connectors.SyncBatches
import Turbocat.Connectors.TicketSchema
import Turbocat.Library.Coverage
import Turbocat.Library.Effects
import Turbocat.Library.Interleavings
import Turbocat.Library.Numerals
import Turbocat.Library.Paging
import Turbocat.Library.Replacing
import Turbocat.Library.Runs
import Turbocat.Library.Settings
import Turbocat.Library.Tables
import Turbocat.Library.Unwinding
import Turbocat.Orchestrator.Api
import Turbocat.Orchestrator.ApiEffects
import Turbocat.Orchestrator.App
import Turbocat.Orchestrator.AppEffects
import Turbocat.Orchestrator.AppNoninterference
import Turbocat.Orchestrator.AtMostOnceDispatch
import Turbocat.Orchestrator.Auth
import Turbocat.Orchestrator.BulkCreation
import Turbocat.Orchestrator.ConnectionCreation
import Turbocat.Orchestrator.CredentialSecrecy
import Turbocat.Orchestrator.DeactivatedPipelines
import Turbocat.Orchestrator.Dispatch
import Turbocat.Orchestrator.FailedPolls
import Turbocat.Orchestrator.Jobs
import Turbocat.Orchestrator.Models
import Turbocat.Orchestrator.Registration
import Turbocat.Orchestrator.Scheduler
import Turbocat.Orchestrator.Scheduling
import Turbocat.Orchestrator.SecretTexts
import Turbocat.Orchestrator.SecretUpserts
import Turbocat.Orchestrator.Secrets
import Turbocat.Orchestrator.SessionWrites
import Turbocat.Orchestrator.TenantIsolation
import Turbocat.Orchestrator.TenantNoninterference
import Turbocat.Python.Calendar
import Turbocat.Python.Datetime
import Turbocat.Python.Host
import Turbocat.Python.Isoformat
import Turbocat.Python.JsonText
import Turbocat.Python.Uuid
import Turbocat.Python.Values
import Turbocat.System.AbandonedJobs
import Turbocat.System.AnsweredOnce
import Turbocat.System.Attribution
import Turbocat.System.Capacity
import Turbocat.System.Completion
import Turbocat.System.ConcurrentReports
import Turbocat.System.Credentials
import Turbocat.System.CursorCoverage
import Turbocat.System.CursorOrder
import Turbocat.System.Delivery
import Turbocat.System.Destination
import Turbocat.System.JobRows
import Turbocat.System.Machine
import Turbocat.System.OwnAgents
import Turbocat.System.Polling
import Turbocat.System.Provenance
import Turbocat.System.SchedulerAgreement
import Turbocat.System.Schedules
import Turbocat.System.SerialPolls
import Turbocat.System.Settlement
import Turbocat.System.Shutdown
import Turbocat.System.SourceSecrecy
import Turbocat.System.Startup
import Turbocat.System.Steps
import Turbocat.System.TerminalStates
import Turbocat.System.Updates
