import OperationsConsole.Events.MarkerWait
import OperationsConsole.Events.StallRule
import OperationsConsole.Events.Outage
import OperationsConsole.Collector.StallCadence
import OperationsConsole.Collector.StallTruth
import OperationsConsole.Collector.NameCollision
import OperationsConsole.Session.SignOut
import OperationsConsole.Session.Staleness
import OperationsConsole.Session.TicketContract
import OperationsConsole.Session.LiveSocketContract
import OperationsConsole.Feed.FeedContract
import OperationsConsole.Feed.ConnectionGauge
import OperationsConsole.Browser.SessionEnd
import OperationsConsole.Browser.SessionOwnership
import OperationsConsole.Browser.ConnectionProtocol
import OperationsConsole.Browser.Agreement
import OperationsConsole.Browser.ReadingOrder
import OperationsConsole.Browser.RunNumbers
import OperationsConsole.Redaction.ScrubbedSecrets
import OperationsConsole.Browser.DeadLetterNames
import OperationsConsole.Browser.LoadedHeadline
import OperationsConsole.Browser.HeadlineMark
import OperationsConsole.Events.MarkerBound
import OperationsConsole.Library.Counter
import OperationsConsole.Progress.CounterIncrease
import OperationsConsole.Browser.QueueWindow
import OperationsConsole.Collector.ComputedRates
import OperationsConsole.Collector.UpDown
import OperationsConsole.Redaction.QueryString
import OperationsConsole.Session.CookieAuthority
import OperationsConsole.Session.TicketQuery
import OperationsConsole.Alerts.DegradedAlerts
import OperationsConsole.Browser.AttentionList
import OperationsConsole.Browser.HealthLog
import OperationsConsole.Browser.HistoryViews
import OperationsConsole.Browser.Ledger
import OperationsConsole.Browser.LedgerReads
import OperationsConsole.Browser.LedgerSignOut
import OperationsConsole.Browser.SelectedRange
import OperationsConsole.History.HealthHistory
import OperationsConsole.History.HealthShape
import OperationsConsole.History.KnownTotals
import OperationsConsole.History.RunInfluence
import OperationsConsole.History.RunProgressAnswers
import OperationsConsole.History.RunProgressShape
import OperationsConsole.History.UnavailableHistory
import OperationsConsole.Library.Ascii
import OperationsConsole.Library.CookieText
import OperationsConsole.Library.DotSegments
import OperationsConsole.Proxy.PathSegment
import OperationsConsole.Redaction.TokenSecrets
import OperationsConsole.Session.LoginContract
import OperationsConsole.Session.LoginDecoder
import OperationsConsole.Targets.SharedTarget
import OperationsConsole.Browser.Durations
import OperationsConsole.Browser.DensityCounts
import OperationsConsole.Browser.FlowEdges
import OperationsConsole.Telemetry.RefreshCadence
import OperationsConsole.History.QueueRegrouping
import OperationsConsole.Browser.SparklineInstants
import OperationsConsole.Library.Calendar
import OperationsConsole.Library.IsoText
import OperationsConsole.Library.Joining
import OperationsConsole.Progress.LoadedPoints
import OperationsConsole.Browser.Burnup
import OperationsConsole.Browser.BurnupLine
import OperationsConsole.Browser.LedgerFilters
import OperationsConsole.Browser.PageTimers
import OperationsConsole.Browser.PrettyXml
import OperationsConsole.Browser.RuleSelection
import OperationsConsole.Browser.Toast
import OperationsConsole.Browser.TrimmedLog
import OperationsConsole.Proxy.JsonBodies
import OperationsConsole.Proxy.CoverageReading
import OperationsConsole.Platform.HiddenCredentials
import OperationsConsole.Platform.Poll
import OperationsConsole.Browser.DeepLinks
import OperationsConsole.Session.TicketLogs
import OperationsConsole.History.QueueSelection
