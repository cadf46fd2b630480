import DcimBackend.Library.Run
import DcimBackend.Library.Fallible
import DcimBackend.Library.Accumulate
import DcimBackend.Library.Table
import DcimBackend.Library.Calendar
import DcimBackend.Library.Transaction
import DcimBackend.Library.Connection
import DcimBackend.Library.Join
import DcimBackend.Library.Exceptions
import DcimBackend.Library.Choice
import DcimBackend.Library.Cutoff
import DcimBackend.Library.Firsts
import DcimBackend.Library.Words
import DcimBackend.Library.Rounding
import DcimBackend.Library.FloatFormat
import DcimBackend.Library.Process
import DcimBackend.Library.Lease
import DcimBackend.Library.Separated
import DcimBackend.Library.Csv
import DcimBackend.Library.Tally
import DcimBackend.Library.Agreement
import DcimBackend.Library.History
import DcimBackend.Library.VersionedCache
import DcimBackend.Access.Hierarchy
import DcimBackend.Common.Validation
import DcimBackend.Common.Value
import DcimBackend.Common.Text
import DcimBackend.Common.Decimal
import DcimBackend.Access.Models
import DcimBackend.Access.Scope
import DcimBackend.Access.Filter
import DcimBackend.Access.Permissions
import DcimBackend.Access.ViewSets
import DcimBackend.Access.Composition
import DcimBackend.Access.Administration
import DcimBackend.Access.Chains
import DcimBackend.Reports.Schedule
import DcimBackend.Reports.Periods
import DcimBackend.Reports.Months
import DcimBackend.Reports.Ranges
import DcimBackend.Reports.Models
import DcimBackend.Reports.Serializers
import DcimBackend.Reports.Generation
import DcimBackend.Reports.Endings
import DcimBackend.Reports.Cancellation
import DcimBackend.Reports.JobFiles
import DcimBackend.Reports.Claims
import DcimBackend.Reports.Execution
import DcimBackend.Reports.Coverage
import DcimBackend.Reports.Metrics
import DcimBackend.Alerts.Models
import DcimBackend.Alerts.Matching
import DcimBackend.Alerts.Statements
import DcimBackend.Alerts.Rules
import DcimBackend.Alerts.Engine
import DcimBackend.Alerts.Evaluation
import DcimBackend.Alerts.Traps
import DcimBackend.Alerts.Effects
import DcimBackend.Alerts.Lifecycle
import DcimBackend.Alerts.Windows
import DcimBackend.Alerts.Duration
import DcimBackend.Alerts.Suppression
import DcimBackend.Alerts.Orphans
import DcimBackend.Alerts.Evidence
import DcimBackend.Alerts.Requests
import DcimBackend.Alerts.Concurrency
import DcimBackend.Alerts.Recipients
import DcimBackend.Alerts.Confirmation
import DcimBackend.Alerts.Isolation
import DcimBackend.Alerts.Blocking
import DcimBackend.Alerts.TrapClears
import DcimBackend.Alerts.TrapEvents
import DcimBackend.Telemetry.Ingestion
import DcimBackend.Telemetry.InStep
import DcimBackend.Telemetry.Latest
import DcimBackend.Telemetry.HistoryQuery
import DcimBackend.Telemetry.HistoryBuckets
import DcimBackend.Notifications.Delivery
import DcimBackend.Notifications.Phone
import DcimBackend.Notifications.Creation
import DcimBackend.Notifications.Fanout
import DcimBackend.Notifications.Races
import DcimBackend.Alerts.Escalation
import DcimBackend.Alerts.EscalationRuns
import DcimBackend.Alerts.EscalationFailures
import DcimBackend.Alerts.EscalationRaces
import DcimBackend.Alerts.History
import DcimBackend.Alerts.Closures
import DcimBackend.Alerts.Occurrences
import DcimBackend.Alerts.RuleCache
import DcimBackend.Alerts.CacheOutage
import DcimBackend.Notifications.Dispatch
import DcimBackend.Notifications.Queue
import DcimBackend.Api.Writes
import DcimBackend.Api.Audit
import DcimBackend.Api.Redaction
import DcimBackend.Collectors.GatewayLocks
import DcimBackend.Collectors.Polls
import DcimBackend.Collectors.SnmpPoll
import DcimBackend.Collectors.ModbusPoll
import DcimBackend.Collectors.Accounting
import DcimBackend.Collectors.PollLocks
import DcimBackend.Collectors.SoftLimit
import DcimBackend.Collectors.Health
import DcimBackend.Collectors.Security
import DcimBackend.Collectors.Scheduler
import DcimBackend.Collectors.Mappings
import DcimBackend.Collectors.TrapReceiver
import DcimBackend.Collectors.Registers
import DcimBackend.Collectors.Normalization
import DcimBackend.Collectors.Columns
import DcimBackend.Collectors.Conversions
import DcimBackend.Collectors.Integers
import DcimBackend.Collectors.Scaling
import DcimBackend.Reports.Parameters
import DcimBackend.Reports.Database
import DcimBackend.Reports.Builders
import DcimBackend.Reports.Rendering
import DcimBackend.Reports.Totals
import DcimBackend.Reports.Isolation
import DcimBackend.Library.Arrangement
import DcimBackend.Library.TimeZone
import DcimBackend.Alerts.Dashboard
import DcimBackend.Library.Twins
import DcimBackend.Api.Secrets
import DcimBackend.Library.RetryQueue
import DcimBackend.Collectors.TrapQueue
import DcimBackend.Library.Balance
import DcimBackend.Notifications.Inbox
import DcimBackend.Access.Context
import DcimBackend.Api.Accounts
import DcimBackend.Library.Xml
import DcimBackend.Library.XmlNames
import DcimBackend.Library.XmlRoundTrip
import DcimBackend.Notifications.Sms
import DcimBackend.Notifications.SmsGateway
import DcimBackend.Notifications.SmsDelivery
