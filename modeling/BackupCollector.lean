import BackupCollector.Py.Calendar
import BackupCollector.Py.Gen
import BackupCollector.Py.Requests
import BackupCollector.Py.Quotients
import BackupCollector.Py.Rounding
import BackupCollector.Py.Epoch
import BackupCollector.Py.Decimals
import BackupCollector.Py.Store
import BackupCollector.Py.NumericDates
import BackupCollector.Parsers.XmlSearch
import BackupCollector.Clients.NetworkerRest
import BackupCollector.Clients.NetworkerAttempts
import BackupCollector.Clients.Rest
import BackupCollector.Collectors.ClassRequests
import BackupCollector.Collectors.NetworkerStatus
import BackupCollector.Collectors.NetworkerCounts
import BackupCollector.Parsers.NestedCounts
import BackupCollector.Parsers.ReportTotals
import BackupCollector.Parsers.NetworkerPayload
import BackupCollector.Parsers.Totality
import BackupCollector.Collectors.DxiCli
import BackupCollector.Processors.Derived
import BackupCollector.Processors.Identity
import BackupCollector.Processors.JobTimes
import BackupCollector.Writers.Elasticsearch
import BackupCollector.Collectors.NetworkerRest
import BackupCollector.Collectors.PolicyGauges
import BackupCollector.Writers.Routing
import BackupCollector.Py.Sha256
import BackupCollector.Writers.History
import BackupCollector.Writers.Current
import BackupCollector.Writers.JobRuns
import BackupCollector.Writers.Backups
import BackupCollector.Py.Sets
import BackupCollector.Py.TextOrder
import BackupCollector.Lookups.Models
import BackupCollector.Lookups.Names
import BackupCollector.Lookups.Extract
import BackupCollector.Lookups.Validate
import BackupCollector.Py.Equality
import BackupCollector.Py.Dumps
import BackupCollector.Py.Objects
import BackupCollector.Py.Encoding
import BackupCollector.Lookups.Aggregate
import BackupCollector.Lookups.Ledger
import BackupCollector.Lookups.Extraction
import BackupCollector.Lookups.Fingerprints
import BackupCollector.Lookups.Marks
import BackupCollector.Lookups.Verdicts
import BackupCollector.Lookups.Selection
import BackupCollector.Lookups.Build
import BackupCollector.Lookups.Rereading
import BackupCollector.Lookups.Reasons
import BackupCollector.Lookups.RunKeys
import BackupCollector.Lookups.EpochTimes
import BackupCollector.Lookups.Growth
import BackupCollector.Lookups.Revisions
import BackupCollector.Lookups.Publication
import BackupCollector.Lookups.FailClosed
import BackupCollector.Lookups.Isolation
import BackupCollector.Scheduler.NextRun
import BackupCollector.Lookups.Adapters
import BackupCollector.Lookups.Commit
import BackupCollector.Lookups.StoreLaws
import BackupCollector.Scheduler.Loop
import BackupCollector.Scheduler.Steps
import BackupCollector.Scheduler.Cooldown
import BackupCollector.Scheduler.Overlap
import BackupCollector.Scheduler.Status
import BackupCollector.Lookups.ReadBatch
import BackupCollector.Lookups.Quarantine
import BackupCollector.Py.Gauges
import BackupCollector.Clients.Snmp
import BackupCollector.Parsers.DdSnmp
import BackupCollector.Collectors.DdSnmp
import BackupCollector.Py.LockUsers
import BackupCollector.Py.Sessions
import BackupCollector.Clients.I6000Sessions
import BackupCollector.Py.Ties
import BackupCollector.Lookups.ArrivalOrder
import BackupCollector.Lookups.Admission
import BackupCollector.Lookups.Refresh
import BackupCollector.Core.Loader
import BackupCollector.Collectors.Readiness
import BackupCollector.Parsers.ZfsRest
import BackupCollector.Collectors.ZfsRest
import BackupCollector.Clients.DxiSessions
import BackupCollector.Collectors.DxiGauges
import BackupCollector.Lookups.PublishedNames
import BackupCollector.Collectors.I6000Rest
