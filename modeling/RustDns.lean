import RustDns.Db.BlockAlerts
import RustDns.Dns.RuleDomains
import RustDns.Dns.WildcardMeaning
import RustDns.Api.Sessions
import RustDns.Db.MultiRowInserts
import RustDns.Dns.SsrfGuard
import RustDns.Dns.ClientOrder
import RustDns.Dns.GroupPriority
import RustDns.Dns.RuleExpiry
import RustDns.Db.AppCatalog
import RustDns.Dns.UrlSlices
import RustDns.Dns.ResolverSharing
import RustDns.Dns.TcpTask
import RustDns.Dns.AclMeaning
import RustDns.Dns.CacheHits
import RustDns.Dns.ReloadRuns
import RustDns.Api.ImportedRules
import RustDns.Api.TextExport
import RustDns.Api.RewriteEffect
import RustDns.Api.PolicyRuns
import RustDns.Api.BindingBatches
import RustDns.Api.MovedClients
import RustDns.Api.MemberBatches
import RustDns.Api.Integrity
import RustDns.Api.SyncRuns
import RustDns.Api.Router
import RustDns.Api.Doh
import RustDns.Api.Sandbox
import RustDns.Api.RuleValidation
import RustDns.Api.DomainCheck
import RustDns.Api.RuleCounting
import RustDns.Api.ParentalLevels
import RustDns.Api.UpstreamHealth
import RustDns.Api.FailoverThreshold
import RustDns.Api.FastestNode
import RustDns.Api.ProbeInterval
import RustDns.Api.AclUpdates
import RustDns.Api.Users
import RustDns.Api.ClientIp
import RustDns.Api.WsTickets
import RustDns.Api.FilterArithmetic
import RustDns.Api.PgNumbered
import RustDns.Api.QueryLogPages
import RustDns.Api.CsvExport
